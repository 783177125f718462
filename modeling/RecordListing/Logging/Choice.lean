import RecordListing.Logging.Filter
import RecordListing.Settings.Basic
import RecordListing.Settings.Paths
import RecordListing.Text.Quoted

namespace RecordListing.Logging

/-!
# What is logged, how and where

The filter, the form of the lines and their destination are chosen from variables
of the environment and from the settings. A variable that counts goes before the
settings.
-/

inductive Format where
  | json
  | text
  deriving DecidableEq

def Format.all : List Format := [.json, .text]

def Format.name : Format → String
  | .json => "json"
  | .text => "text"

def Format.ofName? (name : String) : Option Format := all.find? (·.name = name)

inductive Destination where
  | stdout
  | stderr
  | file
  deriving DecidableEq

def Destination.all : List Destination := [.stdout, .stderr, .file]

def Destination.name : Destination → String
  | .stdout => "stdout"
  | .stderr => "stderr"
  | .file => "file"

def Destination.ofName? (name : String) : Option Destination := all.find? (·.name = name)

/-- Why nothing can be logged. -/
inductive LogError where
  | badDirective (e : DirectiveError)
  | badVariableDirective (e : DirectiveError)
  | unknownFormat (name : String)
  | unknownDestination (name : String)
  | noHome
  | directory (cause : String)
  | file (path cause : String)
  deriving DecidableEq

def LogError.message (e : LogError) : String :=
  "Configuration error: " ++ match e with
    | .badDirective e => "Invalid log directive: " ++ e.message
    | .badVariableDirective e => "Invalid log directive from env: " ++ e.message
    | .unknownFormat name =>
      "Invalid log format: " ++ name ++ " (must be 'json' or 'text')"
    | .unknownDestination name =>
      "Invalid log output: " ++ name ++ " (must be 'stdout', 'stderr', or 'file')"
    | .noHome => Settings.Paths.noHomeMessage
    | .directory cause => "Failed to create log directory: " ++ cause
    | .file path cause => "Failed to open log file " ++ Text.quoted path ++ ": " ++ cause

/-! ## The filter -/

/-- Adds directives, unless one cannot be read. -/
def addAll (wrap : DirectiveError → LogError) (f : Filter) : List String → Except LogError Filter
  | [] => .ok f
  | text :: rest =>
    match Directive.ofText text with
    | .error e => .error (wrap e)
    | .ok d => addAll wrap (f.add d) rest

/-- The directives in a list of targets and levels. An entry that lacks one of the
two is passed over. -/
def moduleDirectives (text : String) : List String :=
  (Text.splitAt ',' text.toList).filterMap fun entry =>
    match entry.dropWhile (· ≠ '=') with
    | [] => none
    | _ :: behind =>
      let target := Text.trim (.ofList (entry.takeWhile (· ≠ '=')))
      let level := Text.trim (.ofList behind)
      if target.isEmpty ∨ level.isEmpty then none else some (target ++ "=" ++ level)

/-- The filter that a variable gives by itself. -/
def variableFilter? (here : Surroundings) : Option Filter :=
  (here.get? "SLTABLE_LOG").bind Filter.ofText?

def chooseFilter (here : Surroundings) (s : LoggingSettings) : Except LogError Filter :=
  match variableFilter? here with
  | some f => .ok f
  | none =>
    if s.level = "off" then .ok {}
    else
      match addAll .badDirective (.ofReadable s.level)
          (s.modules.map fun (target, level) => target ++ "=" ++ level) with
      | .error e => .error e
      | .ok f =>
        addAll .badVariableDirective f
          (((here.get? "SLTABLE_LOG_MODULES").map moduleDirectives).getD [])

/-- What is said about the level of the settings while the filter is chosen. -/
def complaints (here : Surroundings) (s : LoggingSettings) : List String :=
  if (variableFilter? here).isSome ∨ s.level = "off" then [] else Filter.complaints s.level

/-! ## Form and destination -/

/-- A variable that names no form does not count. -/
def chooseFormat (here : Surroundings) (s : LoggingSettings) : Except LogError Format :=
  match (here.get? "SLTABLE_LOG_FORMAT").bind Format.ofName? with
  | some f => .ok f
  | none =>
    match Format.ofName? s.format with
    | some f => .ok f
    | none => .error (.unknownFormat s.format)

/-- A variable that is set counts, even if it names no destination. -/
def chooseDestination (here : Surroundings) (s : LoggingSettings) :
    Except LogError Destination :=
  let name := (here.get? "SLTABLE_LOG_OUTPUT").getD s.output
  match Destination.ofName? name with
  | some d => .ok d
  | none => .error (.unknownDestination name)

/-- The log file: the one named, or the default one. -/
def logFile? (here : Surroundings) (s : LoggingSettings) : Option String :=
  s.file.or (Settings.Paths.defaultLogFile? here)

/-- The log file, once it is sure that it can be written. -/
def chooseFile (here : Surroundings) (s : LoggingSettings) : Except LogError String :=
  match logFile? here s with
  | none => .error .noHome
  | some path =>
    match (Path.parent? path).bind fun above => Path.enterError? above (here.standing above) with
    | some cause => .error (.directory cause)
    | none =>
      match Path.appendError? path (here.standing path) with
      | some cause => .error (.file path cause)
      | none => .ok path

/-- How events are logged. -/
structure Logger where
  filter : Filter
  format : Format
  /-- The file to write to; the other destinations need none. -/
  file : Option String
  destination : Destination
  color : Bool
  deriving DecidableEq

/-- The logger of a run, or none if logging is turned off. -/
def chooseLogger (here : Surroundings) (s : LoggingSettings) : Except LogError (Option Logger) :=
  if ¬ s.enabled then .ok none
  else do
    let filter ← chooseFilter here s
    let format ← chooseFormat here s
    let destination ← chooseDestination here s
    let file ← if destination = .file then (chooseFile here s).map some else .ok none
    return some ⟨filter, format, file, destination, s.color && destination ≠ .file⟩

end RecordListing.Logging
