import RecordListing.Row
import RecordListing.Table

namespace RecordListing

/-!
# Rendered listings

Rows are shown as a table under the headers of their columns, or as a JSON array
of objects.
-/

inductive OutputForm where
  | table
  | json
  deriving DecidableEq

namespace OutputForm

def all : List OutputForm := [.table, .json]

def name : OutputForm → String
  | .table => "table"
  | .json => "json"

/-- Blanks around the name and the case of its letters do not matter, and `text`
means a table. -/
def ofText? (s : String) : Option OutputForm :=
  let name := Text.lowerAscii (Text.trim s)
  if name = "table" ∨ name = "text" then some .table
  else if name = "json" then some .json
  else none

def unknownMessage (s : String) : String :=
  "invalid output format '" ++ Text.lowerAscii (Text.trim s) ++ "' (must be 'table' or 'json')"

end OutputForm

def TableStyle.ofText? (s : String) : Option TableStyle :=
  TableStyle.all.find? (·.name = Text.lowerAscii s)

def TableStyle.unknownMessage (s : String) : String :=
  "unknown table style '" ++ Text.lowerAscii s ++ "'"

/-- The text of rows of an entity. -/
def render (style : TableStyle) (form : OutputForm) (e : Entity) (columns : List ColumnName)
    (rows : List Row) : String :=
  match form with
  | .table => Table.render style (columns.map e.label) (rows.map Row.texts)
  | .json => (Json.arr (rows.map Row.toJson)).toIndentedText

end RecordListing
