import RecordListing.Json.Shape
import RecordListing.Settings.Basic

namespace RecordListing

/-!
# Settings as JSON

Reading settings from JSON, where everything may be left out, and writing them in
full, where only what is unset is left out.
-/

open Json (Shape)
open Json.Shape (field)

def Kind.shape : Shape Kind := .variant Kind.name Kind.all

def OutputForm.shape : Shape OutputForm := .variant OutputForm.name OutputForm.all

def TableStyle.shape : Shape TableStyle := .variant TableStyle.name TableStyle.all

def ValueKind.shape : Shape ValueKind := .variant ValueKind.name ValueKind.all

def plainString : Shape String := .text "a string"

def ColumnName.shape : Shape ColumnName := fun depth cs => do
  let (s, rest) ← plainString depth cs
  return (.ofText s, rest)

def Override.shape : Shape Override :=
  .record "EntityOverride" {} [
    field "default_columns" (.optional (.list ColumnName.shape))
      fun v o => { o with defaultColumns := v },
    field "default_sort" (.optional plainString) fun v o => { o with defaultSort := v }]

def OutputSettings.shape : Shape OutputSettings :=
  .record "OutputConfig" {} [
    field "default_mode" OutputForm.shape fun v o => { o with defaultMode := v },
    field "table_style" TableStyle.shape fun v o => { o with tableStyle := v },
    field "color" .switch fun v o => { o with color := v }]

def LoggingSettings.shape : Shape LoggingSettings :=
  .record "LoggingConfig" {} [
    field "enabled" .switch fun v l => { l with enabled := v },
    field "level" plainString fun v l => { l with level := v },
    field "format" plainString fun v l => { l with format := v },
    field "output" plainString fun v l => { l with output := v },
    field "file" (.optional (.text "path string")) fun v l => { l with file := v },
    field "color" .switch fun v l => { l with color := v },
    field "modules" (.map plainString) fun v l => { l with modules := v }]

def Settings.shape : Shape Settings :=
  .record "SltableConfig" {} [
    field "output" OutputSettings.shape fun v s => { s with output := v },
    field "logging" LoggingSettings.shape fun v s => { s with logging := v },
    field "entities" (.map Override.shape) fun v s => { s with entities := v }]

/-- A member that is left out when unset. -/
def optionalMember (name : String) (v : Option Json) : Json.Members :=
  (v.map fun v => (name, v)).toList

def Override.toJson (o : Override) : Json := .obj <|
  optionalMember "default_columns"
      (o.defaultColumns.map fun cs => .arr (cs.map fun c => .str c.text)) ++
    optionalMember "default_sort" (o.defaultSort.map .str)

def OutputSettings.toJson (o : OutputSettings) : Json := .obj [
  ("default_mode", .str o.defaultMode.name),
  ("table_style", .str o.tableStyle.name),
  ("color", .bool o.color)]

def LoggingSettings.toJson (l : LoggingSettings) : Json := .obj <|
  [("enabled", .bool l.enabled), ("level", .str l.level), ("format", .str l.format),
    ("output", .str l.output)] ++
  optionalMember "file" (l.file.map .str) ++
  [("color", .bool l.color), ("modules", .obj (l.modules.map fun (k, v) => (k, .str v)))]

def Settings.toJson (s : Settings) : Json := .obj [
  ("output", s.output.toJson),
  ("logging", s.logging.toJson),
  ("entities", .obj (s.entities.map fun (k, o) => (k, o.toJson)))]

end RecordListing
