import RecordListing.Entity
import RecordListing.Json.Printer
import RecordListing.Timestamp

namespace RecordListing

/-!
# Rows

A row holds the texts of one record's columns in display order. A field that is
absent shows as a hyphen; a present field shows its value, whatever it is.
-/

structure Row where
  cells : List (ColumnName × String)
  deriving DecidableEq

/-- What stands for an absent field. -/
def absentText : String := "-"

namespace Json

mutual

/-- Strings as they are, lists as their items between commas without the nulls,
and all else as JSON. -/
def plainText : Json → String
  | .str s => s
  | .arr items => Text.join "," (plainTexts items)
  | .null => absentText
  | .bool b => (Json.bool b).toText
  | .num n => (Json.num n).toText
  | .obj ms => (Json.obj ms).toText

def plainTexts : List Json → List String
  | [] => []
  | .null :: vs => plainTexts vs
  | v :: vs => plainText v :: plainTexts vs

end

/-- Binary64 numbers that are integers below 10^18 show as integers. -/
def integralText : Json → String
  | .num (.float x) =>
    match x.toInt? with
    | some n =>
      if n.natAbs < 1_000_000_000_000_000_000 then .ofList (integerText n)
      else (Json.num (.float x)).toText
    | none => (Json.num (.float x)).toText
  | v => v.plainText

def timestampText : Json → String
  | .str s => Timestamp.normalText s
  | v => v.plainText

def countText : Json → String
  | .arr items => .ofList (integerText items.length)
  | v => v.plainText

/-- The values that the items of a list have below the keys, between commas. -/
def joinedText (keys : List String) : Json → String
  | .arr items => Text.join "," ((items.filterMap (lookup keys)).map plainText)
  | v => v.plainText

end Json

def ValueKind.cellText : ValueKind → Json → String
  | .integer => Json.integralText
  | .text => Json.plainText
  | .timestamp => Json.timestampText
  | .count => Json.countText

/-- How a value of this kind is shown under a display rule. -/
def DisplayRule.cellText (kind : ValueKind) : DisplayRule → Json → String
  | .raw, v => kind.cellText v
  | .lowercase, v => Text.lower (kind.cellText v)
  | .join path, v => v.joinedText (Text.parts '.' path)

namespace Row

/-- The cell of a column in a record. -/
def cell (e : Entity) (record : Json) (name : ColumnName) : String :=
  match e.column? name with
  | none => absentText
  | some c =>
    match record.field? c.path with
    | none => absentText
    | some v => c.display.cellText c.kind v

def project (e : Entity) (columns : List ColumnName) (record : Json) : Row :=
  ⟨columns.map fun name => (name, cell e record name)⟩

def get? (row : Row) (name : ColumnName) : Option String :=
  (row.cells.find? (·.1 = name)).map (·.2)

def texts (row : Row) : List String := row.cells.map (·.2)

/-- The object of a row, its members in display order. -/
def toJson (row : Row) : Json := .obj (row.cells.map fun (name, text) => (name.text, .str text))

end Row

end RecordListing
