import RecordListing.CommandLine.Command
import RecordListing.Description
import RecordListing.Listing
import RecordListing.Settings.Layers
import RecordListing.Settings.TomlForm

namespace RecordListing.CommandLine

/-!
# Carrying out commands

A command is carried out under settings and the registry made from them. What
happens on the way is in the journal of the run.
-/

/-- Why no output comes out of a command line. -/
inductive RunError where
  | load (e : LoadError)
  | overrides (e : OverrideError)
  | listing (e : ListingError)
  | unknownFormat (name : String)

namespace RunError

def message : RunError → String
  | .load e => "Configuration error: " ++ e.message
  | .overrides e => "Configuration error: " ++ e.message
  | .listing e => e.message
  | .unknownFormat name =>
    "Invalid usage: Invalid format '" ++ name ++ "' (must be 'text' or 'json')"

/-- Whether the caller asked for something that cannot be had. -/
def isUsage : RunError → Bool
  | .listing (.request _) => true
  | .unknownFormat _ => true
  | _ => false

def exitCode (e : RunError) : Nat := if e.isUsage then 2 else 1

/-- The report of an error, with its first line in bold red if it is coloured. -/
def report (color : Bool) (e : RunError) : String :=
  (if color then "\x1b[1m\x1b[31mFAILED\x1b[39m\x1b[0m\n" else "FAILED\n") ++ e.message

end RunError

/-- The request for a listing. Its form is that of the settings if none is asked for. -/
def request (s : Settings) (kind : Kind) (p : Projection) (form : Option OutputForm) : Request :=
  ⟨kind, p.columns, p.sortKey, form.getD s.output.defaultMode⟩

/-- Lists records of any source. -/
def listFrom (s : Settings) (r : Registry) (kind : Kind) (p : Projection)
    (form : Option OutputForm) (source : Source) : Run RunError :=
  let run := r.list s.output.tableStyle (request s kind p form) source
  ⟨run.journal, run.outcome.mapError .listing⟩

/-- Shows the mask that a listing would fetch with. -/
def showMask (s : Settings) (r : Registry) (kind : Kind) (p : Projection) : Run RunError :=
  match r.plan (request s kind p none) with
  | .error e => ⟨[], .error (.listing (.request e))⟩
  | .ok plan => ⟨[.report (plan.event kind)], .ok plan.mask.toText⟩

def describe (r : Registry) (kind : Kind) (format : String) : Run RunError :=
  let e := r.entity kind
  if format = "json" then ⟨[], .ok e.describeJson.toIndentedText⟩
  else if format = "text" then ⟨[], .ok e.describe⟩
  else ⟨[], .error (.unknownFormat format)⟩

/-- The records in a file, or those that come in if the path is a hyphen. -/
def sourceAt (here : Surroundings) (path : String) : Source :=
  textSource path (if path = "-" then here.input else (here.standing path).read)

namespace Command

def run (s : Settings) (r : Registry) (sources : String → Source) (c : Command) : Run RunError :=
  let rest := match c with
    | .list kind input p form => listFrom s r kind p form (sources input)
    | .columns kind format => describe r kind format
    | .mask kind p => showMask s r kind p
    | .config => ⟨[], .ok s.toToml⟩
  ⟨.report (.executing c.name) :: rest.journal, rest.outcome⟩

end Command

end RecordListing.CommandLine
