import RecordListing.Entity

namespace RecordListing

/-!
# Selections

The columns and the order of a request, once the entity has allowed them.
-/

structure Selection where
  kind : Kind
  columns : List ColumnName
  sortKey : SortKey
  deriving DecidableEq

inductive RequestError where
  | unsupportedColumn (name : String)
  | unsupportedSortKey (name : String)
  deriving DecidableEq

def RequestError.message : RequestError → String
  | .unsupportedColumn name => "--column " ++ name ++ " is not supported."
  | .unsupportedSortKey name => "--sortby " ++ name ++ " is not supported."

/-- The columns asked for, each where it is first named, or the default columns if
none is named. A column that cannot be shown is reported before a column that
cannot be sorted by. -/
def Entity.select (e : Entity) (key : SortKey) (requested : List ColumnName) :
    Except RequestError Selection :=
  match requested.find? fun c => ¬ e.Displayable c with
  | some bad => .error (.unsupportedColumn bad.text)
  | none =>
    match key.filter fun c => ¬ e.Sortable c with
    | some bad => .error (.unsupportedSortKey bad.text)
    | none =>
      .ok {
        kind := e.kind
        columns := if requested.isEmpty then e.defaults else distinct requested
        sortKey := key }

end RecordListing
