import RecordListing.Event
import RecordListing.Json.Reader
import RecordListing.Prune

namespace RecordListing

/-!
# Sources of records

A source answers a fetch, the kind of the records and the mask of the fields
wanted, with records or an error, and reports events while doing so.
-/

inductive SourceError where
  | unreadable (cause : String)
  | malformed (cause : String)
  | notAList (found : String)
  deriving DecidableEq

def SourceError.message : SourceError → String
  | .unreadable cause => "Failed to read records: " ++ cause
  | .malformed cause => "Failed to parse records: " ++ cause
  | .notAList found => "Expected a JSON array of records, got " ++ found

structure Fetched where
  events : List Event
  records : Except SourceError (List Json)

abbrev Source := Kind → Mask → Fetched

/-- The records in a text, a JSON array. -/
def recordsOfText (text : String) : Except SourceError (List Json) :=
  match Json.ofText text with
  | .error cause => .error (.malformed cause)
  | .ok (.arr items) => .ok items
  | .ok v => .error (.notAList v.typeName)

/-- Records at hand, fetched as far as the mask names their fields. -/
structure Store where
  records : Kind → List Json

namespace Store

def empty : Store := ⟨fun _ => []⟩

def add (s : Store) (kind : Kind) (records : List Json) : Store :=
  ⟨fun k => if k = kind then s.records k ++ records else s.records k⟩

def fetch (s : Store) (kind : Kind) (mask : Mask) : List Json :=
  (s.records kind).map (·.prune mask)

def source (s : Store) : Source := fun kind mask => ⟨[], .ok (s.fetch kind mask)⟩

end Store

/-- The records in a text that comes from `path`, or could not be read. -/
def textSource (path : String) (text : Except String String) : Source := fun kind mask =>
  match text with
  | .error cause => ⟨[], .error (.unreadable cause)⟩
  | .ok text =>
    match recordsOfText text with
    | .error e => ⟨[], .error e⟩
    | .ok records =>
      ⟨[.loaded kind path records.length], .ok (records.map (·.prune mask))⟩

end RecordListing
