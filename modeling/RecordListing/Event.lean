import RecordListing.Rendering
import RecordListing.Mask

namespace RecordListing

/-!
# Events

What a run reports while it works. An event has a level, the part of the program
that it comes from, and fields.
-/

inductive Level where
  | error
  | warn
  | info
  | debug
  | trace
  deriving DecidableEq

namespace Level

def name : Level → String
  | .error => "ERROR"
  | .warn => "WARN"
  | .info => "INFO"
  | .debug => "DEBUG"
  | .trace => "TRACE"

/-- How much is reported at this level. -/
def rank : Level → Nat
  | .error => 1
  | .warn => 2
  | .info => 3
  | .debug => 4
  | .trace => 5

end Level

inductive Event where
  | starting
  | executing (command : String)
  | planned (kind : Kind) (columns : Nat) (sortKey : SortKey) (mask : Mask)
  | loaded (kind : Kind) (path : String) (count : Nat)
  | fetched (kind : Kind) (count : Nat)
  | sorting (kind : Kind) (sortKey : ColumnName) (count : Nat)
  | rendering (kind : Kind) (form : OutputForm) (rows : Nat)
  | completed
  | settingsRejected (message : String)
  | commandFailed (message : String)

namespace Event

def level : Event → Level
  | .starting | .completed => .info
  | .settingsRejected _ | .commandFailed _ => .error
  | _ => .debug

/-- The part of the program that reports the event. -/
def target : Event → String
  | .executing _ => "sltable::cli::route"
  | .planned .. | .fetched .. | .rendering .. => "sltable::listing"
  | .loaded .. => "sltable::source"
  | .sorting .. => "sltable::sort"
  | _ => "sltable"

def message : Event → String
  | .starting => "sltable starting"
  | .executing _ => "Executing command"
  | .planned .. => "Planned listing"
  | .loaded .. => "Loaded records"
  | .fetched .. => "Fetched records"
  | .sorting .. => "Sorting records"
  | .rendering .. => "Rendering"
  | .completed => "Command completed successfully"
  | .settingsRejected m => "Error loading configuration: " ++ m
  | .commandFailed m => "Command failed: " ++ m

def number (n : Nat) : Json := .num (.int n)

/-- The fields besides the message. -/
def details : Event → Json.Members
  | .executing command => [("command", .str command)]
  | .planned kind columns key mask =>
    [("entity", .str kind.name), ("columns", number columns), ("sort_key", .str key.toText),
      ("mask", .str mask.toText)]
  | .loaded kind path count =>
    [("entity", .str kind.name), ("path", .str path), ("count", number count)]
  | .fetched kind count => [("entity", .str kind.name), ("count", number count)]
  | .sorting kind key count =>
    [("entity", .str kind.name), ("sort_key", .str key.text), ("count", number count)]
  | .rendering kind form rows =>
    [("entity", .str kind.name), ("rows", number rows), ("mode", .str form.name)]
  | _ => []

end Event

end RecordListing
