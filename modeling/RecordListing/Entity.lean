import RecordListing.Column
import RecordListing.Distinct
import RecordListing.Kind

namespace RecordListing

/-!
# Entities

An entity says which columns the records of one kind have: which are shown by
default, which on request, by which records may be ordered and by which they are
ordered when nothing is asked for. It is built from a declaration, and settings may
replace its default columns and its default order.
-/

structure Declaration where
  kind : Kind
  columns : List ColumnDeclaration
  defaults : List String
  optional : List String
  sortable : List String
  defaultSort : Option String

structure Entity where
  kind : Kind
  columns : List Column
  defaults : List ColumnName
  optional : List ColumnName
  sortable : List ColumnName
  defaultSort : SortKey

/-- The lists in which an unregistered column may be named. -/
inductive NameList where
  | default
  | optional
  | sortable
  | overrideDefault
  deriving DecidableEq

def NameList.name : NameList → String
  | .default => "default"
  | .optional => "optional"
  | .sortable => "sortable"
  | .overrideDefault => "override default"

inductive Defect where
  | malformedPath (column path : String)
  | repeatedColumn (column : String)
  | unregistered (list : NameList) (column : String)
  | noDefaults
  | defaultAndOptional (column : String)
  | unsortableDefault (column : String)
  deriving DecidableEq

structure EntityError where
  kind : Kind
  defect : Defect
  deriving DecidableEq

def EntityError.message (e : EntityError) : String :=
  e.kind.name ++ ": " ++
    match e.defect with
    | .malformedPath column path =>
      "column '" ++ column ++ "' has malformed field path '" ++ path ++ "'"
    | .repeatedColumn column => "column '" ++ column ++ "' is registered twice"
    | .unregistered list column => list.name ++ " list names unregistered column '" ++ column ++ "'"
    | .noDefaults => "no default columns"
    | .defaultAndOptional column =>
      "column '" ++ column ++ "' is both a default and an optional column"
    | .unsortableDefault column => "default sort '" ++ column ++ "' is not sortable"

/-- The columns of a declaration, unless a path is malformed or a name is among
those `seen` before. -/
def register (kind : Kind) (seen : List ColumnName) :
    List ColumnDeclaration → Except EntityError (List Column)
  | [] => .ok []
  | c :: cs =>
    match FieldPath.ofText? c.path with
    | none => .error ⟨kind, .malformedPath c.name c.path⟩
    | some path =>
      let name := ColumnName.ofText c.name
      if name ∈ seen then .error ⟨kind, .repeatedColumn c.name⟩
      else
        match register kind (name :: seen) cs with
        | .error e => .error e
        | .ok rest => .ok (⟨name, path, c.kind, c.label, c.display⟩ :: rest)

/-- The names of a list, unless one is not registered. -/
def resolve (kind : Kind) (columns : List Column) (list : NameList) (names : List String) :
    Except EntityError (List ColumnName) :=
  match names.find? fun n => ColumnName.ofText n ∉ columns.map (·.name) with
  | some n => .error ⟨kind, .unregistered list n⟩
  | none => .ok (names.map .ofText)

namespace Entity

def column? (e : Entity) (name : ColumnName) : Option Column :=
  e.columns.find? (·.name = name)

def Displayable (e : Entity) (name : ColumnName) : Prop :=
  name ∈ e.defaults ∨ name ∈ e.optional

instance (e : Entity) (name : ColumnName) : Decidable (e.Displayable name) :=
  inferInstanceAs (Decidable (_ ∨ _))

def Sortable (e : Entity) (name : ColumnName) : Prop := name ∈ e.sortable

instance (e : Entity) (name : ColumnName) : Decidable (e.Sortable name) :=
  inferInstanceAs (Decidable (_ ∈ _))

/-- The header of a column, its name if it is not registered. -/
def label (e : Entity) (name : ColumnName) : String :=
  match e.column? name with
  | some c => c.label
  | none => name.text

def setDefaultSort (e : Entity) (key : SortKey) : Except EntityError Entity :=
  match key with
  | none => .ok { e with defaultSort := none }
  | some name =>
    if e.Sortable name then .ok { e with defaultSort := some name }
    else .error ⟨e.kind, .unsortableDefault name.text⟩

/-- The entity of a declaration, or the first defect. -/
def ofDeclaration (d : Declaration) : Except EntityError Entity := do
  let columns ← register d.kind [] d.columns
  let defaults ← resolve d.kind columns .default d.defaults
  let optional ← resolve d.kind columns .optional d.optional
  let sortable ← resolve d.kind columns .sortable d.sortable
  if defaults.isEmpty then throw ⟨d.kind, .noDefaults⟩
  match optional.find? (· ∈ defaults) with
  | some both => throw ⟨d.kind, .defaultAndOptional both.text⟩
  | none =>
    let entity : Entity := ⟨d.kind, columns, defaults, optional, sortable, none⟩
    match d.defaultSort with
    | none => return entity
    | some text => entity.setDefaultSort (.ofText text)

/-- Columns that cease to be defaults become optional. -/
def setDefaults (e : Entity) (wanted : List ColumnName) : Except EntityError Entity :=
  if wanted.isEmpty then .error ⟨e.kind, .noDefaults⟩
  else match wanted.find? fun c => ¬ e.Displayable c with
    | some bad => .error ⟨e.kind, .unregistered .overrideDefault bad.text⟩
    | none =>
      .ok { e with
        defaults := distinct wanted
        optional := (e.defaults ++ e.optional).filter (· ∉ distinct wanted) }

end Entity

/-- Settings for one kind of records. -/
structure Override where
  defaultColumns : Option (List ColumnName) := none
  defaultSort : Option String := none
  deriving DecidableEq

/-- An entity after an attempt to override it, and what was wrong. -/
structure Attempt where
  entity : Entity
  error : Option EntityError

/-- Overrides the default columns and then the default order. What was done before
an error stays done. -/
def Entity.override (e : Entity) (o : Override) : Attempt :=
  match o.defaultColumns.elim (.ok e) e.setDefaults with
  | .error err => ⟨e, some err⟩
  | .ok e' =>
    match o.defaultSort.elim (.ok e') fun text => e'.setDefaultSort (.ofText text) with
    | .error err => ⟨e', some err⟩
    | .ok e'' => ⟨e'', none⟩

def Attempt.toExcept (a : Attempt) : Except EntityError Entity :=
  match a.error with
  | some err => .error err
  | none => .ok a.entity

end RecordListing
