import RecordListing.Files

namespace RecordListing

/-!
# Surroundings

What a run finds when it starts: the variables of its environment, the current
directory and the files that it can reach, and the text given as input.
-/

structure Surroundings where
  /-- The absolute path of the current directory. -/
  directory : String
  environment : Keyed String
  standing : String → Standing
  /-- A path that is there, relative to the current directory and without detours. -/
  resolved : String → String
  input : Except String String

namespace Surroundings

def get? (s : Surroundings) (name : String) : Option String := Keyed.get? name s.environment

/-- A variable that is set to more than nothing. -/
def nonEmpty? (s : Surroundings) (name : String) : Option String :=
  (s.get? name).filter (· ≠ "")

/-- What is found after a text has been written at the end of a file. -/
def append (s : Surroundings) (path text : String) : Surroundings :=
  let changed := match s.standing path with
    | .device => .device
    | .file old => .file (old ++ text)
    | _ => .file text
  { s with standing := fun p => if Path.same p path then changed else s.standing p }

def ofTexts (directory : String) (environment files : Keyed String) (input : String) :
    Surroundings :=
  let t := FileTree.ofTexts files
  ⟨directory, environment, t.standing, t.resolved, .ok input⟩

end Surroundings

end RecordListing
