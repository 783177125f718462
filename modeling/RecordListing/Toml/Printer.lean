import RecordListing.Json.Printer

namespace RecordListing.Toml

/-!
# Writing TOML

A text is written in the first of the forms that can show it without escapes:
between double quotes, between single quotes, and over several lines with either.
If there is none, escapes are used.
-/

/-- What decides the form of a text. -/
structure Traits where
  hasControl : Bool
  hasBackslash : Bool
  hasLineEnd : Bool
  /-- The longest runs of single and of double quotes. -/
  singles : Nat
  doubles : Nat

/-- The longest run of `quote`, with `run` of them right before. -/
def longestRun (quote : Char) (run : Nat) : List Char → Nat
  | [] => run
  | c :: cs => if c = quote then longestRun quote (run + 1) cs else max run (longestRun quote 0 cs)

/-- Control characters besides the tab and the line end. -/
def isControl (c : Char) : Bool :=
  (c.toNat < 0x20 || c.toNat = 0x7F) && c ≠ '\t' && c ≠ '\n'

def Traits.of (cs : List Char) : Traits where
  hasControl := cs.any isControl
  hasBackslash := cs.any (· = '\\')
  hasLineEnd := cs.any (· = '\n')
  singles := longestRun '\'' 0 cs
  doubles := longestRun '"' 0 cs

def upperHex (n : Nat) : Char := (Nat.digitChar n).toUpper

/-- The escape of a character that cannot stand in double quotes as it is. -/
def escapeOf? (c : Char) : Option (List Char) :=
  if c.toNat = 0x08 then some ['\\', 'b']
  else if c = '\t' then some ['\\', 't']
  else if c.toNat = 0x0C then some ['\\', 'f']
  else if c = '\r' then some ['\\', 'r']
  else if c = '\\' then some ['\\', '\\']
  else if isControl c then
    some ['\\', 'u', '0', '0', upperHex (c.toNat / 16), upperHex (c.toNat % 16)]
  else none

/-- The text within double quotes, of which at most `allowed` stand side by side.
Line ends stand as they are only over several lines. -/
def escaped (allowed : Nat) (lines : Bool) (run : Nat) : List Char → List Char
  | [] => []
  | c :: cs =>
    if c = '"' then
      if run < allowed then '"' :: escaped allowed lines (run + 1) cs
      else '\\' :: '"' :: escaped allowed lines 0 cs
    else if c = '\n' then
      (if lines then ['\n'] else ['\\', 'n']) ++ escaped allowed lines 0 cs
    else match escapeOf? c with
      | some e => e ++ escaped allowed lines 0 cs
      | none => c :: escaped allowed lines 0 cs

def inDouble (cs : List Char) : List Char := '"' :: (escaped 0 false 0 cs ++ ['"'])

def inSingle (cs : List Char) : List Char := '\'' :: (cs ++ ['\''])

/-- A text with line ends starts on a line of its own. -/
def opening (t : Traits) (quote : Char) : List Char :=
  [quote, quote, quote] ++ if t.hasLineEnd then ['\n'] else []

def inDoubleLines (t : Traits) (cs : List Char) : List Char :=
  opening t '"' ++ escaped 2 true 0 cs ++ ['"', '"', '"']

def inSingleLines (t : Traits) (cs : List Char) : List Char :=
  opening t '\'' ++ cs ++ ['\'', '\'', '\'']

def textForm (s : String) : String :=
  let cs := s.toList
  let t := Traits.of cs
  .ofList <|
    if !t.hasControl && !t.hasBackslash && t.doubles = 0 && !t.hasLineEnd then inDouble cs
    else if !t.hasControl && t.singles = 0 && !t.hasLineEnd then inSingle cs
    else if !t.hasControl && !t.hasBackslash && t.doubles ≤ 2 then inDoubleLines t cs
    else if !t.hasControl && t.singles ≤ 2 then inSingleLines t cs
    else if t.hasLineEnd then inDoubleLines t cs
    else inDouble cs

/-- Letters, digits, hyphens and underscores need no quotes in a key. -/
def keyForm (s : String) : String :=
  let cs := s.toList
  let t := Traits.of cs
  if !cs.isEmpty && cs.all (fun c => c.isAlphanum || c = '-' || c = '_') then s
  else .ofList <|
    if !t.hasControl && !t.hasBackslash && t.doubles = 0 && !t.hasLineEnd then inDouble cs
    else if !t.hasControl && t.singles = 0 && !t.hasLineEnd then inSingle cs
    else inDouble cs

/-- No items, one item on the line, or a line for each. -/
def arrayForm : List String → String
  | [] => "[]"
  | [v] => "[" ++ v ++ "]"
  | vs => "[\n" ++ vs.foldl (fun acc v => acc ++ "    " ++ v ++ ",\n") "" ++ "]"

/-- A table under its header. -/
structure Section where
  path : List String
  entries : List (String × String)

def Section.write (s : Section) : String :=
  "[" ++ ".".intercalate (s.path.map keyForm) ++ "]\n" ++
    s.entries.foldl (fun acc (k, v) => acc ++ keyForm k ++ " = " ++ v ++ "\n") ""

/-- Sections with an empty line between each two. -/
def writeSections (sections : List Section) : String :=
  "\n".intercalate (sections.map Section.write)

end RecordListing.Toml
