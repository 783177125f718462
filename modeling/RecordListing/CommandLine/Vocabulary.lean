import RecordListing.Kind
import RecordListing.Rendering

namespace RecordListing.CommandLine

/-!
# Commands and their options

A command line is a row of words. It names one command; options stand before or
after that name, and most commands take a kind of records.
-/

inductive Verb where
  | list
  | columns
  | mask
  | config
  deriving DecidableEq

namespace Verb

def all : List Verb := [.list, .columns, .mask, .config]

def name : Verb → String
  | .list => "list"
  | .columns => "columns"
  | .mask => "mask"
  | .config => "config"

def ofText? (word : String) : Option Verb := all.find? (·.name = word)

end Verb

inductive OptionName where
  | config
  | verbose
  | quiet
  | logLevel
  | logFormat
  | logOutput
  | logFile
  | input
  | sortBy
  | column
  | output
  | format
  deriving DecidableEq

namespace OptionName

def text : OptionName → String
  | .config => "config"
  | .verbose => "verbose"
  | .quiet => "quiet"
  | .logLevel => "log-level"
  | .logFormat => "log-format"
  | .logOutput => "log-output"
  | .logFile => "log-file"
  | .input => "input"
  | .sortBy => "sortby"
  | .column => "column"
  | .output => "output"
  | .format => "format"

def takesValue : OptionName → Bool
  | .verbose | .quiet => false
  | _ => true

/-- The options that go with every command, and with none. -/
def common : List OptionName :=
  [.config, .verbose, .quiet, .logLevel, .logFormat, .logOutput, .logFile]

end OptionName

/-- Where a word stands: before any command, or after the name of one. -/
abbrev Scope := Option Verb

namespace Scope

def options : Scope → List OptionName
  | none | some .config => OptionName.common
  | some .list => [.input, .sortBy, .column, .output] ++ OptionName.common
  | some .columns => .format :: OptionName.common
  | some .mask => [.sortBy, .column] ++ OptionName.common

def option? (scope : Scope) (name : String) : Option OptionName :=
  scope.options.find? (·.text = name)

def takesKind : Scope → Bool
  | some .list | some .columns | some .mask => true
  | _ => false

end Scope

/-- What a value is given for. -/
inductive Slot where
  | option (name : OptionName)
  | kind
  deriving DecidableEq

/-- Why the words do not make a command. -/
inductive Stop where
  | help
  | nothingGiven
  | missingCommand
  | unknownCommand (word : String)
  | unknownArgument (word : String)
  | missingArgument (slot : Slot)
  | missingValue (slot : Slot)
  | badValue (slot : Slot) (word : String)
  | surplusValue (option : String) (value : String)
  | repeated (slot : Slot)
  deriving DecidableEq

namespace Slot

def text : Slot → String
  | .option name => "--" ++ name.text
  | .kind => "<KIND>"

/-- Only columns may be named several times. -/
def repeats (slot : Slot) : Bool := slot = .option .column

/-- What is wrong with a value. A path must not be empty. -/
def check (slot : Slot) (value : String) : Option Stop :=
  match slot with
  | .option .config | .option .logFile | .option .input =>
    if value.isEmpty then some (.missingValue slot) else none
  | .option .output =>
    if (OutputForm.ofText? value).isNone then some (.badValue slot value) else none
  | .kind => if (Kind.ofText? value).isNone then some (.badValue slot value) else none
  | _ => none

end Slot

namespace Stop

def exitCode : Stop → Nat
  | .help => 0
  | _ => 2

def usage : String :=
  "Usage: sltable [OPTIONS] list|columns|mask|config"

def message : Stop → String
  | .help | .nothingGiven => usage
  | .missingCommand => "error: no command is given\n\n" ++ usage
  | .unknownCommand word => "error: there is no command '" ++ word ++ "'\n\n" ++ usage
  | .unknownArgument word => "error: unexpected argument '" ++ word ++ "'\n\n" ++ usage
  | .missingArgument slot => "error: " ++ slot.text ++ " is required\n\n" ++ usage
  | .missingValue slot => "error: a value is required for " ++ slot.text ++ "\n\n" ++ usage
  | .badValue slot word =>
    let cause := match slot with
      | .kind => Kind.unknownMessage word
      | _ => OutputForm.unknownMessage word
    "error: invalid value '" ++ word ++ "' for " ++ slot.text ++ ": " ++ cause ++ "\n\n" ++ usage
  | .surplusValue option value =>
    "error: unexpected value '" ++ value ++ "' for --" ++ option ++ "\n\n" ++ usage
  | .repeated slot => "error: " ++ slot.text ++ " is given more than once\n\n" ++ usage

end Stop

end RecordListing.CommandLine
