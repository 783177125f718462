import RecordListing.CommandLine.Execution
import RecordListing.Logging.Line

namespace RecordListing.CommandLine

/-!
# Sessions

A session is a command line from its words to what is written and the exit code.
Settings are loaded first, then logging begins, then the registry is made and the
command carried out.
-/

/-- What comes of a command line. -/
structure Execution where
  events : List Event := []
  /-- The name of the command, once it has begun. -/
  command : Option String := none
  /-- Whether an error is shown in colour. -/
  color : Bool := true
  outcome : Except RunError String

def reported (journal : List Entry) : List Event :=
  journal.filterMap fun
    | .report e => some e
    | .fetch _ _ => none

namespace Line

def load (here : Surroundings) (line : Line) : Except RunError Settings :=
  (Settings.load here line.options.settingsFile).mapError .load

/-- The files that settings may come from. -/
def settingsPaths (here : Surroundings) (line : Line) : List String :=
  match line.options.settingsFile.or (Settings.Paths.globalFile? here) with
  | none => []
  | some path => Layer.places path ++ Layer.places (here.resolved path)

/-- Until there is a registry errors are shown in colour, then as the settings say. -/
def executeWith (here : Surroundings) (s : Settings) (line : Line) : Execution :=
  match s.registry with
  | .error e =>
    let error := RunError.overrides e
    { events := [.starting, .settingsRejected error.message], outcome := .error error }
  | .ok r =>
    let run := line.command.run s r (sourceAt here)
    let final := match run.outcome with
      | .ok _ => Event.completed
      | .error e => .commandFailed e.message
    { events := .starting :: reported run.journal ++ [final]
      command := some line.command.name
      color := s.output.color
      outcome := run.outcome }

def execute (here : Surroundings) (line : Line) : Execution :=
  match line.load here with
  | .error e => { outcome := .error e }
  | .ok s => line.executeWith here s

end Line

/-- The logging settings under the options of a command line. -/
def CommonOptions.logging (o : CommonOptions) (base : LoggingSettings) : LoggingSettings :=
  { base with
    enabled := base.enabled && !o.quiet
    level := o.logLevel.getD (if o.verbose then "debug" else base.level)
    format := o.logFormat.getD base.format
    output := o.logOutput.getD base.output
    file := o.logFile.or base.file }

/-- The files that a run goes on to use: its records, its log and what that stands in. -/
def Line.runPaths (here : Surroundings) (line : Line) : List String :=
  let input := match line.command with
    | .list _ path _ _ => [path]
    | _ => []
  match line.load here with
  | .error _ => []
  | .ok s =>
    let log := (Logging.logFile? here (line.options.logging s.logging)).toList
    input ++ log ++ log.filterMap Path.parent?

/-- What is written and how the program ends. Log lines come before the output. -/
structure Session where
  logger : Option Logging.Logger := none
  events : List Event := []
  complaints : List String := []
  output : String := ""
  errors : String := ""
  exitCode : Nat := 0

namespace Session

def ofExecution (logger : Option Logging.Logger) (x : Execution) : Session :=
  match x.outcome with
  | .ok text => { logger, events := x.events, output := text ++ "\n" }
  | .error e =>
    { logger, events := x.events, errors := e.report x.color ++ "\n", exitCode := e.exitCode }

def ofLine (here : Surroundings) (line : Line) : Session :=
  match line.load here with
  | .error e => ofExecution none { outcome := .error e }
  | .ok s =>
    let logging := line.options.logging s.logging
    let complaints := if logging.enabled then Logging.complaints here logging else []
    match Logging.chooseLogger here logging with
    | .error e =>
      { complaints, errors := "Failed to initialize logging: " ++ e.message ++ "\n", exitCode := 1 }
    | .ok logger => { ofExecution logger (line.executeWith here s) with complaints }

def ofStop (stop : Stop) : Session :=
  if stop.exitCode = 0 then { output := stop.message ++ "\n" }
  else { errors := stop.message ++ "\n", exitCode := stop.exitCode }

def ofWords (here : Surroundings) (words : List String) : Session :=
  match Line.ofWords words with
  | .error stop => ofStop stop
  | .ok line => ofLine here line

/-- The log lines that go to a destination. -/
def logged (s : Session) (destination : Logging.Destination) (time : String) : String :=
  match s.logger.filter (·.destination = destination) with
  | none => ""
  | some l => l.lines time s.events

def stdout (s : Session) (time : String) : String := s.logged .stdout time ++ s.output

def stderr (s : Session) (time : String) : String :=
  Text.join "" (s.complaints.map (· ++ "\n")) ++ s.logged .stderr time ++ s.errors

/-- The log file and what is written at its end. -/
def logFile (s : Session) (time : String) : Option (String × String) :=
  (s.logger.bind (·.file)).map fun path => (path, s.logged .file time)

end Session

end RecordListing.CommandLine
