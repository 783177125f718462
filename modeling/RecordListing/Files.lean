import RecordListing.Keyed
import RecordListing.Text.Parts

namespace RecordListing

/-!
# Files

What stands at a path: nothing, a directory or a file with its text. Files are
known by their paths below the current directory; a directory is there when a file
stands in it.
-/

inductive Standing where
  | missing
  /-- A file stands where the path goes on below it. -/
  | belowFile
  /-- No file can have the name. -/
  | nameTooLong
  /-- The path holds a zero character, so that it names nothing. -/
  | noPath
  | directory
  /-- Something that reads as an empty file and keeps nothing that is written. -/
  | device
  | file (text : String)
  deriving DecidableEq

namespace Standing

/-- Why a file cannot be read. -/
def readError : Standing → String
  | .missing => "No such file or directory (os error 2)"
  | .belowFile => "Not a directory (os error 20)"
  | .nameTooLong => "File name too long (os error 36)"
  | .noPath => "file name contained an unexpected NUL byte"
  | .directory => "Is a directory (os error 21)"
  | .device => ""
  | .file _ => ""

def read : Standing → Except String String
  | .file text => .ok text
  | .device => .ok ""
  | s => .error s.readError

/-- Why there can be no directory, be it there already or to be made. -/
def enterError? : Standing → Option String
  | .missing => none
  | .directory => none
  | .file _ => some "File exists (os error 17)"
  | .device => some "File exists (os error 17)"
  | s => some s.readError

end Standing

def Standing.exists : Standing → Bool
  | .directory => true
  | .device => true
  | .file _ => true
  | _ => false

namespace Path

def isAbsolute (path : String) : Bool := path.toList.head? = some '/'

/-- A path after a base: an absolute one stands by itself. -/
def join (base path : String) : String :=
  if isAbsolute path || base.isEmpty then path
  else if base.toList.getLast? = some '/' then base ++ path
  else base ++ "/" ++ path

/-- The names in a path; empty names and single dots mean nothing. -/
def names (path : String) : List String :=
  (Text.parts '/' path).filter fun s => s ≠ "" && s ≠ "."

/-- The last name, unless the path ends by going up. -/
def lastName? (path : String) : Option String := (names path).getLast?.filter (· ≠ "..")

/-- The part of the last name after its last dot, unless the dot comes first. -/
def extension (path : String) : String :=
  match lastName? path with
  | none => ""
  | some name =>
    match (Text.splitAt '.' name.toList).reverse with
    | last :: stem => if stem.all List.isEmpty ∧ stem.length ≤ 1 then "" else .ofList last
    | [] => ""

/-- The path above, unless there is none. -/
def parent? (path : String) : Option String :=
  let ns := names path
  if ns.isEmpty then none
  else
    let above := Text.join "/" ns.dropLast
    some (if isAbsolute path then "/" ++ above else above)

/-- Names of files have at most 255 bytes. -/
def isLongName (name : String) : Bool := 255 < name.utf8ByteSize

/-- What a path by itself rules out: a zero character, or 4096 bytes and more. -/
def fault? (path : String) : Option Standing :=
  if path.any (· = '\x00') then some .noPath
  else if 4096 ≤ path.utf8ByteSize then some .nameTooLong
  else none

/-- The last part of a path, slashes at its end left out. -/
def lastPart (path : String) : String := ((Text.parts '/' path).filter (· ≠ "")).getLast?.getD ""

/-- A path that ends in a slash or a dot is the path of a directory. -/
def isOfDirectory (path : String) : Bool :=
  path.toList.getLast? = some '/' || lastPart path = "."

/-- Why the directory at a path cannot be made, with those above it. -/
def enterError? (path : String) : Standing → Option String
  | .missing => if (names path).any isLongName then some Standing.nameTooLong.readError else none
  | s => s.enterError?

/-- Why nothing can be written at the end of a file, which is made if it is missing. -/
def appendError? (path : String) : Standing → Option String
  | .file _ => none
  | .device => none
  | .missing =>
    if path.isEmpty ∨ lastPart path = "." then some Standing.missing.readError
    else if (names path).any isLongName then some Standing.nameTooLong.readError
    else if isOfDirectory path ∨ lastPart path = ".." then some Standing.directory.readError
    else none
  | s => some s.readError

/-- The path that leads from one absolute place to another. -/
def between (base path : String) : String :=
  let rec go : List String → List String → List String
    | b :: bs, p :: ps => if b = p then go bs ps else (b :: bs).map (fun _ => "..") ++ p :: ps
    | bs, ps => bs.map (fun _ => "..") ++ ps
  Text.join "/" (go (names base) (names path))

/-- The names of a path, each name that `..` leads back from left out. -/
def direct (path : String) : List String :=
  (names path).foldl (fun above name => if name = ".." then above.dropLast else above ++ [name]) []

/-- Whether two paths lead to the same place, unless links are in the way. -/
def same (p q : String) : Bool := isAbsolute p == isAbsolute q && direct p == direct q

end Path

/-- Files by the names that lead to them. -/
abbrev FileTree := List (List String × String)

namespace FileTree

def ofTexts (files : Keyed String) : FileTree :=
  files.map fun (path, text) => (Path.names path, text)

/-- What stands below the current directory at the names. -/
def at? (t : FileTree) (names : List String) : Standing :=
  match t.find? (·.1 = names) with
  | some (_, text) => .file text
  | none =>
    if names.isEmpty ∨ t.any (fun f => names.isPrefixOf f.1) then .directory
    else if t.any (fun f => f.1.isPrefixOf names) then .belowFile
    else .missing

/-- Directories below the root that are always there. -/
def topDirectories : List String :=
  ["bin", "boot", "dev", "etc", "home", "lib", "media", "mnt", "opt", "proc", "root", "run", "sbin",
    "srv", "sys", "tmp", "usr", "var"]

/-- What stands below the root at the names, as far as it is known. -/
def absolute : List String → Standing
  | [] => .directory
  | [name] => if name ∈ topDirectories then .directory else .missing
  | ["dev", "null"] => .device
  | _ => .missing

/-- Above the current directory there are directories of which nothing is known. -/
def above : List String → Except Standing (List String)
  | [] => .error .directory
  | name :: rest => if name = ".." then above rest else .error .missing

/-- Goes along names from a place below the top, which is the root, that is above
itself, or the current directory. Going anywhere needs a directory to go from. -/
def walk (look : List String → Standing) (fromRoot : Bool) (here : List String) :
    List String → Except Standing (List String)
  | [] => .ok here
  | name :: rest =>
    match look here with
    | .directory =>
      if name = ".." then
        if here.isEmpty && !fromRoot then above rest else walk look fromRoot here.dropLast rest
      else if Path.isLongName name then .error .nameTooLong
      else walk look fromRoot (here ++ [name]) rest
    | .file _ => .error .belowFile
    | .device => .error .belowFile
    | s => .error s

/-- The names that a relative path leads to. -/
def resolve (t : FileTree) (names : List String) : Except Standing (List String) :=
  walk t.at? false [] names

def standing (t : FileTree) (path : String) : Standing :=
  if path.isEmpty then .missing
  else
    match Path.fault? path with
    | some s => s
    | none =>
      let found :=
        if Path.isAbsolute path then (walk absolute true [] (Path.names path)).map absolute
        else (t.resolve (Path.names path)).map t.at?
      match found with
      | .error s => s
      | .ok (.file text) => if Path.isOfDirectory path then .belowFile else .file text
      | .ok .device => if Path.isOfDirectory path then .belowFile else .device
      | .ok s => s

/-- A path that is there, without detours. -/
def resolved (t : FileTree) (path : String) : String :=
  match t.resolve (Path.names path) with
  | .ok names => Text.join "/" names
  | .error _ => path

end FileTree

end RecordListing
