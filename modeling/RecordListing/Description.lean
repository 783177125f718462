import RecordListing.Rendering

namespace RecordListing.Entity

/-!
# Descriptions of entities

What an entity registers, as a table or as JSON. Both say of every column whether
it is shown by default or on request and whether records may be sorted by it.
-/

def role (e : Entity) (c : Column) : String :=
  if c.name ∈ e.defaults then "default"
  else if c.name ∈ e.optional then "optional"
  else "sort only"

/-- The kind of a column's values and its display rule. -/
def valueText (c : Column) : String :=
  match c.display with
  | .raw => c.kind.name
  | .lowercase => c.kind.name ++ " (lowercase)"
  | .join path => c.kind.name ++ " (join " ++ path ++ ")"

def descriptionRow (e : Entity) (c : Column) : List String :=
  [c.name.text, c.label, c.path.toText, valueText c, e.role c,
    if e.Sortable c.name then "yes" else "-"]

def describe (e : Entity) : String :=
  Table.render .utf8 ["Column", "Label", "Path", "Kind", "Shown", "Sortable"]
      (e.columns.map e.descriptionRow) ++
    "\n\nDefault sort: " ++
    (if e.defaultSort.toText.isEmpty then "none" else e.defaultSort.toText)

def descriptionMember (e : Entity) (c : Column) : Json := .obj [
  ("default", .bool (c.name ∈ e.defaults)),
  ("kind", .str c.kind.name),
  ("label", .str c.label),
  ("name", .str c.name.text),
  ("optional", .bool (c.name ∈ e.optional)),
  ("path", .str c.path.toText),
  ("sortable", .bool (e.Sortable c.name))]

def describeJson (e : Entity) : Json := .obj [
  ("columns", .arr (e.columns.map e.descriptionMember)),
  ("default_sort", match e.defaultSort with
    | none => .null
    | some name => .str name.text),
  ("entity", .str e.kind.name)]

end RecordListing.Entity
