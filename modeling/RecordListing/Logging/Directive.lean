import RecordListing.Binary64.Reader
import RecordListing.Event
import RecordListing.Pattern.Reader

namespace RecordListing.Logging

/-!
# Directives

A directive gives the threshold for the events of some part of the program. It is
written `target=level`, and the target may be followed by a span and its fields in
brackets: `target[span{field}]=level`. A level alone goes for everything, a target
alone lets everything pass.
-/

/-- The least severe level that is reported, unless nothing is. -/
abbrev Threshold := Option Level

namespace Threshold

def admits (t : Threshold) (l : Level) : Bool :=
  match t with
  | none => false
  | some most => l.rank ≤ most.rank

def all : List (String × Threshold) := [
  ("off", none), ("error", some .error), ("warn", some .warn), ("info", some .info),
  ("debug", some .debug), ("trace", some .trace)]

/-- A threshold by its name in any case, or by its number. -/
def ofText? (word : String) : Option Threshold :=
  let number := if word.toList.head? = some '-' then none else integerOf? 0 5 word.toList
  match number with
  | some n => (all[n.toNat]?).map (·.2)
  | none => (all.find? (·.1 = Text.lowerAscii word)).map (·.2)

end Threshold

inductive DirectiveError where
  | malformed
  | badLevel
  | badField (fault : Pattern.Fault)
  deriving DecidableEq

def DirectiveError.message : DirectiveError → String
  | .malformed => "invalid filter directive"
  | .badLevel =>
    "error parsing level filter: expected one of \"off\", \"error\", \"warn\", \"info\", " ++
      "\"debug\", \"trace\", or a number 0-5"
  | .badField fault => "invalid field filter: " ++ fault.message

/-- A field that a directive asks for, with or without a value. -/
structure FieldMatch where
  name : String
  hasValue : Bool
  deriving DecidableEq

/-- A value that reads as a switch or a number is not a pattern. -/
def isPlainValue (value : String) : Bool :=
  value = "true" || value = "false" || (Binary64.Extended.ofText? value.toList).isSome

/-- A name, and a value between the first two equals signs. -/
def FieldMatch.ofText (text : List Char) : Except DirectiveError FieldMatch :=
  let name := String.ofList (text.takeWhile (· ≠ '='))
  match text.dropWhile (· ≠ '=') with
  | [] => .ok ⟨name, false⟩
  | _ :: rest =>
    let value := String.ofList (rest.takeWhile (· ≠ '='))
    if isPlainValue value then .ok ⟨name, true⟩
    else match Pattern.fault? value with
      | none => .ok ⟨name, true⟩
      | some fault => .error (.badField fault)

structure Directive where
  threshold : Threshold := some .trace
  target : Option String := none
  span : Option String := none
  fields : List FieldMatch := []
  deriving DecidableEq

namespace Directive

/-! ## Reading -/

/-- How far a directive has been read; a part that is still being read is known by
where it begins. -/
inductive Stage where
  | start
  | levelOrTarget (first : Nat)
  | span (first : Nat)
  | field (first : Nat)
  | fields
  | target
  | level (first : Nat)
  | complete
  deriving DecidableEq

def slice (text : List Char) (first last : Nat) : List Char := (text.drop first).take (last - first)

def isStart (c : Char) : Bool :=
  c = '-' || c = ':' || c = '_' || Text.memRuns Text.alphanumeric c

/-- A word by itself is a level, or else a target. -/
def ofLevelOrTarget (word : String) : Directive :=
  match Threshold.ofText? word with
  | some t => { threshold := t }
  | none => { target := some word }

/-- The level behind an equals sign. None lets everything pass. -/
def withLevel (d : Directive) (word : String) : Except DirectiveError Directive :=
  if word.isEmpty then .ok { d with threshold := some .trace }
  else match Threshold.ofText? word with
    | some t => .ok { d with threshold := t }
    | none => .error .badLevel

def addField (d : Directive) (text : List Char) : Except DirectiveError Directive :=
  if text.isEmpty then .error .malformed
  else (FieldMatch.ofText text).map fun f => { d with fields := d.fields ++ [f] }

/-- The character `c` at place `i` of the text. -/
def step (text : List Char) (d : Directive) (stage : Stage) (i : Nat) (c : Char) :
    Except DirectiveError (Directive × Stage) :=
  let upTo (first : Nat) : String := .ofList (slice text first i)
  match stage with
  | .start =>
    if c = '[' then .ok (d, .span (i + 1))
    else if isStart c then .ok (d, .levelOrTarget i)
    else .error .malformed
  | .levelOrTarget first =>
    if c = '=' then .ok ({ d with target := some (upTo first) }, .level (i + 1))
    else if c = '[' then .ok ({ d with target := some (upTo first) }, .span (i + 1))
    else if c = ',' then .ok (ofLevelOrTarget (.ofList (text.drop first)), .complete)
    else .ok (d, stage)
  | .span first =>
    if c = ']' then .ok ({ d with span := some (upTo first) }, .target)
    else if c = '\x7b' then
      .ok ({ d with span := if (upTo first).isEmpty then none else some (upTo first) },
        .field (i + 1))
    else .ok (d, stage)
  | .field first =>
    if c = '\x7d' then do return (← d.addField (slice text first i), .fields)
    else if c = ',' then do return (← d.addField (slice text first i), .field (i + 1))
    else .ok (d, stage)
  | .fields => if c = ']' then .ok (d, .target) else .error .malformed
  | .target => if c = '=' then .ok (d, .level (i + 1)) else .error .malformed
  | .level first =>
    if c = ',' then do return (← d.withLevel (upTo first), .complete) else .ok (d, stage)
  | .complete => .error .malformed

def run (text : List Char) (d : Directive) (stage : Stage) (i : Nat) :
    List Char → Except DirectiveError (Directive × Stage)
  | [] => .ok (d, stage)
  | c :: cs => do
    let (d, stage) ← step text d stage i c
    run text d stage (i + 1) cs

/-- What the text ends with. -/
def finish (text : List Char) (d : Directive) : Stage → Except DirectiveError Directive
  | .levelOrTarget first => .ok (ofLevelOrTarget (.ofList (text.drop first)))
  | .level first => d.withLevel (.ofList (text.drop first))
  | .target => .ok d
  | .complete => .ok d
  | _ => .error .malformed

/-- Blanks around the text are not read, but the places of its parts are counted as
if it began where the text with its blanks begins. -/
def ofText (text : String) : Except DirectiveError Directive := do
  let (d, stage) ← run text.toList {} .start 0 (Text.trim text).toList
  finish text.toList d stage

/-! ## Effect -/

/-- Spans and the values of fields are told apart while the program runs; without
them a directive holds throughout. -/
def holdsThroughout (d : Directive) : Bool := d.span.isNone && d.fields.all (! ·.hasValue)

/-- Whether the directive is about an event. -/
def covers (d : Directive) (e : Event) : Bool :=
  let names := "message" :: e.details.map (·.1)
  d.target.all (fun t => t.toList.isPrefixOf e.target.toList) &&
    d.fields.all fun f => names.contains f.name

/-- How two directives are ordered: the longer target first, then more fields, and
then by their texts from the last to the first. -/
def order (a b : Directive) : Ordering :=
  let size (d : Directive) : Nat := d.target.elim 0 fun t => t.utf8ByteSize + 1
  let texts (d : Directive) : List String := d.target.getD "" :: d.fields.map (·.name)
  (compare (size b) (size a)).then
    ((compare b.fields.length a.fields.length).then (compare (texts b) (texts a)))

end Directive

end RecordListing.Logging
