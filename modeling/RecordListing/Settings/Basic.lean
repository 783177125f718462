import RecordListing.Keyed
import RecordListing.Registry
import RecordListing.Rendering

namespace RecordListing

/-!
# Settings

How output is presented, what is logged and where, and the overrides of entities
by the names of their kinds.
-/

structure OutputSettings where
  defaultMode : OutputForm := .table
  tableStyle : TableStyle := .plain
  /-- Whether error messages are coloured. -/
  color : Bool := true
  deriving DecidableEq

structure LoggingSettings where
  enabled : Bool := true
  level : String := "warn"
  format : String := "text"
  output : String := "stderr"
  file : Option String := none
  color : Bool := true
  /-- The levels of parts of the program, by their names. -/
  modules : Keyed String := []
  deriving DecidableEq

structure Settings where
  output : OutputSettings := {}
  logging : LoggingSettings := {}
  entities : Keyed Override := []
  deriving DecidableEq

/-- Why settings give no registry. -/
inductive OverrideError where
  | unknownKind (name : String)
  | rejected (e : EntityError)
  deriving DecidableEq

def OverrideError.message : OverrideError → String
  | .unknownKind name => "Unknown entity kind in [entities]: '" ++ name ++ "'"
  | .rejected e => "Invalid entity override: " ++ e.message

namespace Settings

/-- The override of a kind. Of several names for one kind the last counts. -/
def override? (s : Settings) (kind : Kind) : Option Override :=
  (s.entities.reverse.find? fun entry => Kind.ofText? entry.1 = some kind).map (·.2)

def registry (s : Settings) : Except OverrideError Registry :=
  match s.entities.find? fun entry => (Kind.ofText? entry.1).isNone with
  | some (name, _) => .error (.unknownKind name)
  | none =>
    match Registry.withOverrides s.override? with
    | .error e => .error (.rejected e)
    | .ok r => .ok r

end Settings

end RecordListing
