import RecordListing.Json.Printer
import RecordListing.Text.Quoted

namespace RecordListing.Json

/-!
# What can go wrong in a JSON text

A failure is a cause and what was left of the text. Its place, a line and a count
of bytes in that line, follows from the whole text.
-/

/-- What stood in the text where something else was expected. -/
inductive Found where
  | null
  | bool (b : Bool)
  | number (n : Number)
  | text (s : String)
  | sequence
  | map

inductive Cause where
  | endOfValue
  | endOfList
  | endOfObject
  | endOfString
  | expectedColon
  | expectedItemEnd
  | expectedMemberEnd
  | expectedWord
  | expectedValue
  | invalidEscape
  | invalidNumber
  | outOfRange
  | loneSurrogate
  | controlCharacter
  | keyNotText
  | trailingComma
  | trailingCharacters
  | tooDeep
  | brokenSurrogatePair
  | wrongType (found : Found) (expected : String)
  | unknownVariant (name : String) (expected : List String)
  | repeatedField (name : String)

structure Failure where
  cause : Cause
  rest : List Char
  /-- How many bytes of the rest the place lies past. -/
  past : Nat

abbrev Outcome := Except Failure

def fail {α : Type} (cause : Cause) (rest : List Char) : Outcome α :=
  .error ⟨cause, rest, 0⟩

/-- A failure of the character that comes next. -/
def failNext {α : Type} (cause : Cause) (rest : List Char) : Outcome α :=
  .error ⟨cause, rest, 1⟩

def Found.message : Found → String
  | .null => "null"
  | .bool b => "boolean `" ++ (if b then "true" else "false") ++ "`"
  | .number (.int n) => "integer `" ++ .ofList (integerText n) ++ "`"
  | .number (.float x) => "floating point `" ++ .ofList (Number.style.write x) ++ "`"
  | .text s => "string " ++ Text.quoted s
  | .sequence => "sequence"
  | .map => "map"

def ticked (s : String) : String := "`" ++ s ++ "`"

/-- The names of which one was expected. -/
def alternatives : List String → String
  | [] => "there are no variants"
  | [a] => "expected " ++ ticked a
  | [a, b] => "expected " ++ ticked a ++ " or " ++ ticked b
  | names => "expected one of " ++ ", ".intercalate (names.map ticked)

def Cause.message : Cause → String
  | .endOfValue => "EOF while parsing a value"
  | .endOfList => "EOF while parsing a list"
  | .endOfObject => "EOF while parsing an object"
  | .endOfString => "EOF while parsing a string"
  | .expectedColon => "expected `:`"
  | .expectedItemEnd => "expected `,` or `]`"
  | .expectedMemberEnd => "expected `,` or `\x7d`"
  | .expectedWord => "expected ident"
  | .expectedValue => "expected value"
  | .invalidEscape => "invalid escape"
  | .invalidNumber => "invalid number"
  | .outOfRange => "number out of range"
  | .loneSurrogate => "lone leading surrogate in hex escape"
  | .controlCharacter => "control character (\\u0000-\\u001F) found while parsing a string"
  | .keyNotText => "key must be a string"
  | .trailingComma => "trailing comma"
  | .trailingCharacters => "trailing characters"
  | .tooDeep => "recursion limit exceeded"
  | .brokenSurrogatePair => "unexpected end of hex escape"
  | .wrongType found expected => "invalid type: " ++ found.message ++ ", expected " ++ expected
  | .unknownVariant name expected =>
    "unknown variant " ++ ticked name ++ ", " ++ alternatives expected
  | .repeatedField name => "duplicate field " ++ ticked name

/-- A place in a text: lines from one, bytes of the line from zero. -/
structure Place where
  line : Nat
  column : Nat

def Place.start : Place := ⟨1, 0⟩

def Place.after (p : Place) (c : Char) : Place :=
  if c = '\n' then ⟨p.line + 1, 0⟩ else ⟨p.line, p.column + c.utf8Size⟩

/-- The place `bytes` further on, at the end of the text at the latest. -/
def Place.advance (p : Place) : Nat → List Char → Place
  | _, [] => p
  | bytes, c :: cs =>
    if bytes < c.utf8Size then ⟨p.line, p.column + bytes⟩
    else (p.after c).advance (bytes - c.utf8Size) cs

def Failure.place (text : List Char) (f : Failure) : Place :=
  ((text.take (text.length - f.rest.length)).foldl Place.after .start).advance f.past f.rest

def Failure.message (text : List Char) (f : Failure) : String :=
  let p := f.place text
  f.cause.message ++ " at line " ++ toString p.line ++ " column " ++ toString p.column

end RecordListing.Json
