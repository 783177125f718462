import RecordListing.CommandLine.Vocabulary
import RecordListing.Text.Parts

namespace RecordListing.CommandLine

/-!
# Reading words

The words are read one by one. The value of an option or the kind is looked at
only when the next thing is put down, so a word that fits nowhere is reported
before a bad value in front of it.
-/

/-- A word by its form. -/
inductive Form where
  /-- From here on no word is an option. -/
  | terminator
  | long (name : String) (value : Option String)
  | short (letter : Char)
  | plain
  deriving DecidableEq

namespace Form

/-- The text before the first equals sign, and the text behind it if there is one. -/
def splitValue (cs : List Char) : String × Option String :=
  match cs.dropWhile (· ≠ '=') with
  | [] => (.ofList cs, none)
  | _ :: value => (.ofList (cs.takeWhile (· ≠ '=')), some (.ofList value))

def ofWord (word : String) : Form :=
  match word.toList with
  | ['-', '-'] => .terminator
  | '-' :: '-' :: cs =>
    let (name, value) := splitValue cs
    .long name value
  | '-' :: c :: _ => .short c
  | _ => .plain

end Form

/-- What has been read in a scope. -/
structure State where
  /-- The values put down, in order. An option without a value has the empty text. -/
  values : List (Slot × String) := []
  /-- What comes next to be put down. An option without its value waits for it. -/
  pending : Option (Slot × Option String) := none
  /-- No word is an option any more. -/
  trailing : Bool := false
  deriving DecidableEq

namespace State

def waiting (s : State) : Bool :=
  match s.pending with
  | some (_, none) => true
  | _ => false

def hasKind (s : State) : Bool :=
  s.values.any (·.1 = .kind) || (s.pending.map (·.1)) == some .kind

def value? (s : State) (slot : Slot) : Option String :=
  (s.values.find? (·.1 = slot)).map (·.2)

def given (s : State) (name : OptionName) : Bool := (s.value? (.option name)).isSome

/-- Puts a value down. -/
def put (s : State) (slot : Slot) (value : String) : Except Stop State :=
  if ¬ slot.repeats ∧ (s.value? slot).isSome then .error (.repeated slot)
  else match slot.check value with
    | some e => .error e
    | none => .ok { s with values := s.values ++ [(slot, value)] }

/-- Puts down what is pending. -/
def settle (s : State) : Except Stop State :=
  match s.pending with
  | none => .ok s
  | some (slot, none) => .error (.missingValue slot)
  | some (slot, some value) => { s with pending := none }.put slot value

/-- Puts down what is pending, and then an option. -/
def option (s : State) (name : OptionName) (value : Option String) : Except Stop State :=
  match s.settle with
  | .error e => .error e
  | .ok s =>
    if name.takesValue then
      match value with
      | some v => s.put (.option name) v
      | none => .ok { s with pending := some (.option name, none) }
    else s.put (.option name) ""

/-- Asking for help ends the reading, unless what is pending is at fault. -/
def help (s : State) : Except Stop State :=
  match s.settle with
  | .error e => .error e
  | .ok _ => .error .help

/-- An option by its long name, with a value if one is attached. -/
def long (scope : Scope) (s : State) (word name : String) (value : Option String) :
    Except Stop State :=
  let takesNone (known : Except Stop State) : Except Stop State :=
    match value with
    | some v => .error (.surplusValue name v)
    | none => known
  if name = "help" then takesNone s.help
  else match scope.option? name with
    | none => .error (.unknownArgument word)
    | some o => if o.takesValue then s.option o value else takesNone (s.option o none)

/-- A word that is neither an option nor the value of one. -/
def plain (scope : Scope) (s : State) (word : String) : Except Stop State :=
  if scope.takesKind ∧ ¬ s.hasKind then
    match s.settle with
    | .error e => .error e
    | .ok s => .ok { s with pending := some (.kind, some word) }
  else if scope.isSome ∨ s.trailing ∧ (word = "help" ∨ (Verb.ofText? word).isSome) then
    .error (.unknownArgument word)
  else .error (.unknownCommand word)

def step (scope : Scope) (s : State) (word : String) : Except Stop State :=
  if s.trailing then s.plain scope word
  else match Form.ofWord word with
    | .terminator => .ok { s with trailing := true }
    | .long name value => s.long scope word name value
    | .short 'h' => s.help
    | .short _ => .error (.unknownArgument word)
    | .plain =>
      match s.pending with
      | some (slot, none) => .ok { s with pending := some (slot, some word) }
      | _ => s.plain scope word

/-- The words after the name of a command. -/
def run (scope : Scope) (s : State) : List String → Except Stop State
  | [] => s.settle
  | word :: words =>
    match s.step scope word with
    | .error e => .error e
    | .ok s => run scope s words

end State

end RecordListing.CommandLine
