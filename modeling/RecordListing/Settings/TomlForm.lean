import RecordListing.Settings.Basic
import RecordListing.Toml.Printer

namespace RecordListing

/-!
# Settings as TOML
-/

namespace Toml

def switchForm (b : Bool) : String := if b then "true" else "false"

/-- An entry that is left out when unset. -/
def optionalEntry (key : String) (v : Option String) : List (String × String) :=
  (v.map fun v => (key, v)).toList

end Toml

open Toml

def OutputSettings.tomlSection (o : OutputSettings) : Section := ⟨["output"], [
  ("default_mode", textForm o.defaultMode.name),
  ("table_style", textForm o.tableStyle.name),
  ("color", switchForm o.color)]⟩

def LoggingSettings.tomlSections (l : LoggingSettings) : List Section := [
  ⟨["logging"],
    [("enabled", switchForm l.enabled), ("level", textForm l.level), ("format", textForm l.format),
      ("output", textForm l.output)] ++
    optionalEntry "file" (l.file.map textForm) ++
    [("color", switchForm l.color)]⟩,
  ⟨["logging", "modules"], l.modules.map fun (k, v) => (k, textForm v)⟩]

def Override.tomlSection (name : String) (o : Override) : Section :=
  ⟨["entities", name],
    optionalEntry "default_columns"
      (o.defaultColumns.map fun cs => arrayForm (cs.map fun c => textForm c.text)) ++
    optionalEntry "default_sort" (o.defaultSort.map textForm)⟩

/-- The header of the entities stands by itself only when there are none. -/
def Settings.tomlSections (s : Settings) : List Section :=
  s.output.tomlSection :: s.logging.tomlSections ++
    if s.entities.isEmpty then [⟨["entities"], []⟩]
    else s.entities.map fun (name, o) => o.tomlSection name

def Settings.toToml (s : Settings) : String := writeSections s.tomlSections

end RecordListing
