import RecordListing.Logging.Directive
import RecordListing.Text.Parts

namespace RecordListing.Logging

/-!
# Filters

A filter decides which events are logged. Of its directives the most specific one
that covers an event decides.
-/

structure Filter where
  /-- The most specific first, no two of the same targets and fields. -/
  directives : List Directive := []
  deriving DecidableEq

namespace Filter

def insert (d : Directive) : List Directive → List Directive
  | [] => [d]
  | e :: es =>
    match d.order e with
    | .lt => d :: e :: es
    | .eq => d :: es
    | .gt => e :: insert d es

/-- A directive takes the place of one for the same events. One that does not hold
throughout has no effect, since there are no spans. -/
def add (f : Filter) (d : Directive) : Filter :=
  if d.holdsThroughout then ⟨insert d f.directives⟩ else f

def ofDirectives (ds : List Directive) : Filter := ds.foldl add {}

def admits (f : Filter) (e : Event) : Bool :=
  match f.directives.find? (·.covers e) with
  | some d => d.threshold.admits e.level
  | none => false

/-- The texts between commas, but for empty ones. -/
def entries (text : String) : List String := (Text.parts ',' text).filter (· ≠ "")

/-- The filter of directives between commas, if all of them can be read. -/
def ofText? (text : String) : Option Filter :=
  match (entries text).mapM Directive.ofText with
  | .ok ds => some (ofDirectives ds)
  | .error _ => none

/-- The directives between commas that can be read. Without any, errors pass. -/
def ofReadable (text : String) : Filter :=
  let ds := (entries text).filterMap fun t => (Directive.ofText t).toOption
  ofDirectives (if ds.isEmpty then [{ threshold := some .error }] else ds)

/-- What is said about directives that cannot be read. -/
def complaints (text : String) : List String :=
  (entries text).filterMap fun t =>
    match Directive.ofText t with
    | .ok _ => none
    | .error e => some ("ignoring \x60" ++ t ++ "\x60: " ++ e.message)

end Filter

end RecordListing.Logging
