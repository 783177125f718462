import RecordListing.CommandLine.Words

namespace RecordListing.CommandLine

/-!
# Commands

A command with its arguments, and the options that go with any command.
-/

/-- The columns and the order that are asked for. -/
structure Projection where
  columns : List ColumnName := []
  sortKey : Option SortKey := none
  deriving DecidableEq

inductive Command where
  | list (kind : Kind) (input : String) (projection : Projection) (form : Option OutputForm)
  | columns (kind : Kind) (format : String)
  | mask (kind : Kind) (projection : Projection)
  | config
  deriving DecidableEq

def Command.name : Command → String
  | .list kind .. => "list." ++ kind.name
  | .columns kind _ => "columns." ++ kind.name
  | .mask kind _ => "mask." ++ kind.name
  | .config => "config"

structure CommonOptions where
  settingsFile : Option String := none
  verbose : Bool := false
  quiet : Bool := false
  logLevel : Option String := none
  logFormat : Option String := none
  logOutput : Option String := none
  logFile : Option String := none
  deriving DecidableEq

/-- A whole command line. -/
structure Line where
  options : CommonOptions
  command : Command
  deriving DecidableEq

namespace State

/-- Column names stand between commas, and blank ones do not count. -/
def columns (s : State) : List ColumnName :=
  let given := s.values.filterMap fun (slot, value) =>
    if slot = .option .column then some value else none
  ((given.flatMap (Text.parts ',')).map Text.trim).filter (· ≠ "") |>.map .ofText

def projection (s : State) : Projection :=
  ⟨s.columns, (s.value? (.option .sortBy)).map .ofText⟩

def kind? (s : State) : Option Kind := (s.value? .kind).bind Kind.ofText?

def command (s : State) : Verb → Except Stop Command
  | .list =>
    match s.kind?, s.value? (.option .input) with
    | some kind, some input =>
      .ok (.list kind input s.projection ((s.value? (.option .output)).bind OutputForm.ofText?))
    | none, _ => .error (.missingArgument .kind)
    | _, none => .error (.missingArgument (.option .input))
  | .columns =>
    match s.kind? with
    | some kind => .ok (.columns kind ((s.value? (.option .format)).getD "text"))
    | none => .error (.missingArgument .kind)
  | .mask =>
    match s.kind? with
    | some kind => .ok (.mask kind s.projection)
    | none => .error (.missingArgument .kind)
  | .config => .ok .config

end State

/-- What is given after the name of the command counts before what is given in
front of it. -/
def CommonOptions.ofStates (front after : State) : CommonOptions :=
  let value (name : OptionName) : Option String :=
    (after.value? (.option name)).or (front.value? (.option name))
  { settingsFile := value .config
    verbose := (value .verbose).isSome
    quiet := (value .quiet).isSome
    logLevel := value .logLevel
    logFormat := value .logFormat
    logOutput := value .logOutput
    logFile := value .logFile }

/-- Words after `help` lead to a command and no further. -/
def helpWith (words : List String) : Stop :=
  match words with
  | [] => .help
  | word :: rest =>
    if word ≠ "help" ∧ (Verb.ofText? word).isNone then .unknownCommand word
    else match rest with
      | [] => .help
      | next :: _ => .unknownCommand next

namespace Line

/-- The words from the front on. Faults behind the name of the command are found
before one that is pending in front of it. -/
def read (front : State) : List String → Except Stop Line
  | [] =>
    match front.settle with
    | .error e => .error e
    | .ok s => .error (if s.values.isEmpty then .nothingGiven else .missingCommand)
  | word :: words =>
    let onward : Except Stop Line :=
      match front.step none word with
      | .error e => .error e
      | .ok s => read s words
    if front.trailing ∨ front.waiting then onward
    else if word = "help" then .error (helpWith words)
    else match Verb.ofText? word with
      | none => onward
      | some verb => do
        let after ← State.run (some verb) {} words
        let command ← after.command verb
        let front ← front.settle
        return ⟨.ofStates front after, command⟩

def ofWords (words : List String) : Except Stop Line := read {} words

end Line

end RecordListing.CommandLine
