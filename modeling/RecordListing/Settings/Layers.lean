import RecordListing.Json.Reader
import RecordListing.Settings.Decode
import RecordListing.Settings.Paths
import RecordListing.Toml.Reader

namespace RecordListing

/-!
# Layers of settings

Settings come in layers: the defaults, a file, and the environment. Every key has
the value of the last layer that sets it.
-/

inductive LoadError where
  | missing (path : String)
  | fileNotFound (path : String)
  | unknownFormat (path : String)
  | badToml
  | badJson (cause file : String)
  | notATable (found : Setting.Found) (file : String)
  | decode (e : DecodeError)
  deriving DecidableEq

def LoadError.message : LoadError → String
  | .missing path => "configuration property " ++ Text.quoted path ++ " not found"
  | .fileNotFound path => "configuration file \"" ++ path ++ "\" not found"
  | .unknownFormat path =>
    "configuration file \"" ++ path ++ "\" is not of a registered file format"
  | .badToml => "TOML parse error"
  | .badJson cause file => cause ++ " in " ++ file
  | .notATable found file =>
    (DecodeError.wrongScalar found "a map" "" (some file)).message ++ " in " ++ file
  | .decode e => e.message

abbrev Layer := Keyed Setting

namespace Layer

def defaults : Layer := [
  ("output.default_mode", .scalar none (.text "table")),
  ("output.table_style", .scalar none (.text "plain")),
  ("output.color", .scalar none (.switch true)),
  ("logging.enabled", .scalar none (.switch true)),
  ("logging.level", .scalar none (.text "warn")),
  ("logging.format", .scalar none (.text "text")),
  ("logging.output", .scalar none (.text "stderr")),
  ("logging.color", .scalar none (.switch true))]

/-! ## Files -/

mutual

def ofToml (origin : Option String) : Toml → Setting
  | .text s => .scalar origin (.text s)
  | .integer n => .scalar origin (.integer n)
  | .float x => .scalar origin (.float x)
  | .bool b => .scalar origin (.switch b)
  | .instant s => .scalar origin (.text s)
  | .array items => .list origin (ofTomlItems origin items)
  | .table entries => .table origin (ofTomlEntries origin entries)

def ofTomlItems (origin : Option String) : List Toml → List Setting
  | [] => []
  | v :: vs => ofToml origin v :: ofTomlItems origin vs

def ofTomlEntries (origin : Option String) : List (String × Toml) → List (String × Setting)
  | [] => []
  | (k, v) :: rest => (k, ofToml origin v) :: ofTomlEntries origin rest

end

/-- Integers of 64 bits with a sign stay integers. -/
def ofNumber : Number → Scalar
  | .int n => if n < 0x8000_0000_0000_0000 then .integer n else .float (.finite (.ofInt n))
  | .float x => .float (.finite x)

mutual

def ofJson (origin : Option String) : Json → Setting
  | .null => .scalar origin .unset
  | .bool b => .scalar origin (.switch b)
  | .num n => .scalar origin (ofNumber n)
  | .str s => .scalar origin (.text s)
  | .arr items => .list origin (ofJsonItems origin items)
  | .obj members => .table origin (ofJsonMembers origin members)

def ofJsonItems (origin : Option String) : List Json → List Setting
  | [] => []
  | v :: vs => ofJson origin v :: ofJsonItems origin vs

def ofJsonMembers (origin : Option String) : List (String × Json) → List (String × Setting)
  | [] => []
  | (k, v) :: rest => (k, ofJson origin v) :: ofJsonMembers origin rest

end

inductive Format where
  | toml
  | json
  deriving DecidableEq

def Format.all : List Format := [.toml, .json]

def Format.extension : Format → String
  | .toml => "toml"
  | .json => "json"

/-- The entries of the table that a file holds. -/
def ofRoot (file : String) : Setting → Except LoadError Layer
  | .table _ entries => .ok entries
  | other => .error (.notATable other.found file)

/-- The settings in a text that comes from `file`. -/
def ofText (format : Format) (file text : String) : Except LoadError Layer :=
  match format with
  | .toml =>
    match Toml.ofText? text with
    | none => .error .badToml
    | some v => ofRoot file (ofToml (some file) v)
  | .json =>
    match Json.ofText text with
    | .error cause => .error (.badJson cause file)
    | .ok v => ofRoot file (ofJson (some file) v)

/-- A path as errors and origins name it: relative, without empty names. -/
def displayPath (path : String) : String :=
  (if Path.isAbsolute path then "/" else "") ++ Text.join "/" (Path.names path)

/-- A path with the ending of a format behind its name. -/
def longerPath (path : String) (format : Format) : String :=
  displayPath path ++ "." ++ format.extension

/-- The file that a path means and its format: the file itself, or one with the
ending of a format behind its name. -/
def findFile (s : Surroundings) (path : String) : Except LoadError (Format × String × String) :=
  match s.standing path with
  | .file text =>
    match Format.all.find? (·.extension = Path.extension path) with
    | some format => .ok (format, path, text)
    | none => .error (.unknownFormat (Path.join s.directory path))
  | _ =>
    let candidate (format : Format) : Option (Format × String × String) :=
      match s.standing (longerPath path format) with
      | .file text =>
        if (Path.lastName? path).isNone then none else some (format, longerPath path format, text)
      | _ => none
    match Format.all.findSome? candidate with
    | some found => .ok found
    | none => .error (.fileNotFound path)

/-- The places where the file that a path means may stand. -/
def places (path : String) : List String := path :: Format.all.map (longerPath path)

def ofFile (s : Surroundings) (path : String) : Except LoadError Layer :=
  match findFile s path with
  | .error e => .error e
  | .ok (format, path, text) => ofText format (displayPath path) text

/-- The layer of a file that is named, and has to be there. -/
def explicit (s : Surroundings) (path : String) : Except LoadError Layer :=
  if (s.standing path).exists then ofFile s path else .error (.missing path)

/-- The layer of the global file. Without such a file it is empty. -/
def global (s : Surroundings) : Except LoadError Layer :=
  match Settings.Paths.globalFile? s with
  | none => .ok []
  | some path =>
    if (s.standing path).exists then
      match findFile s (s.resolved path) with
      | .error _ => .ok []
      | .ok (format, path, text) => ofText format (displayPath path) text
    else .ok []

/-! ## The environment -/

def environmentOrigin : String := "the environment"

/-- Variables with this start set settings. -/
def variableStart : List Char := "sltable__".toList

/-- Every double underscore becomes a dot. -/
def dotted : List Char → List Char
  | '_' :: '_' :: cs => '.' :: dotted cs
  | c :: cs => c :: dotted cs
  | [] => []

/-- The key that a variable sets, if it sets any. -/
def keyOfVariable? (name : String) : Option String :=
  let cs := (Text.lower name).toList
  if variableStart.isPrefixOf cs then some (.ofList (dotted (cs.drop variableStart.length)))
  else none

/-- The kinds whose default columns are lists in the environment. -/
def listedKinds : List Kind := [.volume, .snapshot, .accessHost, .subnet, .hardware, .user]

/-- Keys whose values are lists with commas between the items. -/
def listKeys : List String := listedKinds.map fun k => "entities." ++ k.name ++ ".default_columns"

/-- A value is a switch, an integer, a float or a list if it reads as one. -/
def ofVariable (key value : String) : Setting :=
  let origin := some environmentOrigin
  if Text.lower value = "true" then .scalar origin (.switch true)
  else if Text.lower value = "false" then .scalar origin (.switch false)
  else match integerOf? (-0x8000_0000_0000_0000) 0x7FFF_FFFF_FFFF_FFFF value.toList with
    | some n => .scalar origin (.integer n)
    | none =>
      match Binary64.Extended.ofText? value.toList with
      | some x => .scalar origin (.float x)
      | none =>
        if key ∈ listKeys then
          .list origin ((Text.parts ',' value).map fun s => .scalar origin (.text s))
        else .scalar origin (.text value)

/-- The layer of the environment, its keys in order. -/
def environment (s : Surroundings) : Layer :=
  s.environment.foldl (fun layer (name, value) =>
    match keyOfVariable? name with
    | none => layer
    | some key => Keyed.put key (ofVariable key value) layer) []

end Layer

namespace Settings

/-- The settings of some layers, the last one counting most. -/
def ofLayers (layers : List Layer) : Except LoadError Settings :=
  match Settings.decode (layers.foldl Setting.overlay Setting.empty) with
  | .error e => .error (.decode e)
  | .ok s => .ok s

/-- The settings of a run. A file that is named takes the place of the global one. -/
def load (s : Surroundings) (file : Option String) : Except LoadError Settings :=
  match file.elim (Layer.global s) (Layer.explicit s) with
  | .error e => .error e
  | .ok layer => ofLayers [Layer.defaults, layer, Layer.environment s]

/-- The settings of one file by itself. -/
def loadFile (s : Surroundings) (file : String) : Except LoadError Settings :=
  match Layer.explicit s file with
  | .error e => .error e
  | .ok layer => ofLayers [Layer.defaults, layer]

end Settings

end RecordListing
