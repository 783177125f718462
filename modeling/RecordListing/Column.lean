import RecordListing.FieldPath
import RecordListing.Text.Blank
import RecordListing.Text.Lowercase

namespace RecordListing

/-!
# Columns

A column has a name, the field it shows, the kind of the values there, a header
and a rule for display. Every spelling of `id` in capitals or small letters is one
name; all other names are kept as given.
-/

structure ColumnName where
  text : String
  folded : Text.lowerAscii text = "id" → text = "id"
  deriving DecidableEq

namespace ColumnName

def ofText (s : String) : ColumnName :=
  if h : Text.lowerAscii s = "id" then ⟨"id", fun _ => rfl⟩ else ⟨s, fun h' => absurd h' h⟩

theorem text_injective {a b : ColumnName} (h : a.text = b.text) : a = b := by
  cases a
  cases b
  cases h
  rfl

theorem ofText_text (name : ColumnName) : ofText name.text = name := by
  obtain ⟨text, folded⟩ := name
  unfold ofText
  split
  · rename_i h
    simp [folded h]
  · rfl

end ColumnName

/-- The column to order by, if any. -/
abbrev SortKey := Option ColumnName

/-- A blank text asks for no order. -/
def SortKey.ofText (s : String) : SortKey :=
  let name := Text.trim s
  if name.isEmpty then none else some (.ofText name)

def SortKey.toText : SortKey → String
  | none => ""
  | some name => name.text

inductive ValueKind where
  | integer
  | text
  | timestamp
  | count
  deriving DecidableEq

def ValueKind.name : ValueKind → String
  | .integer => "integer"
  | .text => "text"
  | .timestamp => "timestamp"
  | .count => "count"

def ValueKind.all : List ValueKind := [.integer, .text, .timestamp, .count]

inductive DisplayRule where
  | raw
  | lowercase
  /-- A list of objects is shown as the values that its items have below these keys. -/
  | join (path : String)
  deriving DecidableEq

structure ColumnDeclaration where
  name : String
  path : String
  kind : ValueKind
  label : String
  display : DisplayRule := .raw
  deriving DecidableEq

structure Column where
  name : ColumnName
  path : FieldPath
  kind : ValueKind
  label : String
  display : DisplayRule
  deriving DecidableEq

end RecordListing
