import RecordListing.CommandLine.Session
import Std.Time.Format

namespace RecordListing.CommandLine

/-!
# The program

What a session needs from its surroundings is looked up before it, and what it
writes is written behind it.
-/

/-- Whether a path leads to something that is neither a file nor a directory. -/
def isDevice (path : String) : IO Bool := do
  return (← (← IO.FS.realPath path).metadata).type == .other

/-- What stands at a path. A file that is no text counts as missing. -/
def lookAt (path : String) : IO Standing := do
  match ← (IO.FS.readFile path).toBaseIO with
  | .ok text =>
    if text.isEmpty && (← isDevice path) then return .device else return .file text
  | .error (.inappropriateType _ 21 _) => return .directory
  | .error (.inappropriateType ..) => return .belowFile
  | .error (.invalidArgument _ 36 _) => return .nameTooLong
  | .error _ => return .missing

def lookAround (here : Surroundings) (paths : List String) : IO Surroundings := do
  let found ← paths.mapM fun path => return (path, ← lookAt path)
  return { here with standing := fun path =>
    match found.find? (·.1 = path) with
    | some (_, standing) => standing
    | none => here.standing path }

/-- The variables of the environment, in order of their names. -/
def readEnvironment : IO (Keyed String) := do
  let bytes ← IO.FS.readBinFile "/proc/self/environ"
  let entries := Text.parts '\x00' ((String.fromUTF8? bytes).getD "")
  return entries.foldl (fun found entry =>
    match Form.splitValue entry.toList with
    | (name, some value) => Keyed.put name value found
    | (_, none) => found) []

/-- The directory and the variables, before any file has been looked at. -/
def start : IO Surroundings := do
  let directory := (← IO.currentDir).toString
  let environment ← readEnvironment
  let here : Surroundings := ⟨directory, environment, fun _ => .missing, id, .ok ""⟩
  match Settings.Paths.globalFile? here with
  | none => return here
  | some file =>
    match ← (IO.FS.realPath file).toBaseIO with
    | .error _ => return here
    | .ok real =>
      let direct := Path.between directory real.toString
      return { here with resolved := fun path => if path = file then direct else path }

def withInput (here : Surroundings) (line : Line) : IO Surroundings := do
  match line.command with
  | .list _ "-" _ _ =>
    match ← ((← IO.getStdin).readToEnd).toBaseIO with
    | .ok text => return { here with input := .ok text }
    | .error e => return { here with input := .error (toString e) }
  | _ => return here

def now : IO String := do
  let time ← Std.Time.Timestamp.now
  let date := Std.Time.PlainDateTime.ofWallTime (time.toWallTime .zero)
  return date.format "uuuu-MM-dd'T'HH:mm:ss.SSSSSSSSS" ++ "+00:00"

def finish (s : Session) : IO UInt32 := do
  let time ← now
  match s.logFile time with
  | none => pure ()
  | some (path, text) =>
    match Path.parent? path with
    | some above => unless above.isEmpty do IO.FS.createDirAll above
    | none => pure ()
    (← IO.FS.Handle.mk path .append).putStr text
  (← IO.getStdout).putStr (s.stdout time)
  (← IO.getStderr).putStr (s.stderr time)
  return UInt32.ofNat s.exitCode

def program (words : List String) : IO UInt32 := do
  match Line.ofWords words with
  | .error stop => finish (.ofStop stop)
  | .ok line =>
    let here ← start
    let here ← lookAround here (line.settingsPaths here)
    let here ← lookAround here (line.runPaths here)
    finish (.ofLine (← withInput here line) line)

end RecordListing.CommandLine

def main (words : List String) : IO UInt32 :=
  RecordListing.CommandLine.program words
