import RecordListing.Json.Reader
import RecordListing.Text.Blank

namespace RecordListing.Pattern

/-!
# Patterns

A pattern is a regular expression. What matters here is whether one can be used at
all: nothing is known of letters without regard to their case, of properties of
characters, and of what makes up a word, beyond ASCII.
-/

/-- Settings that a pattern changes as it goes. -/
structure Flags where
  ignoreCase : Bool := false
  /-- The pattern is about characters and not about bytes. -/
  unicode : Bool := true
  /-- Blanks and comments between the parts do not count. -/
  spaced : Bool := false
  deriving DecidableEq

def Flags.set (f : Flags) (name : Char) (on : Bool) : Flags :=
  if name = 'i' then { f with ignoreCase := on }
  else if name = 'u' then { f with unicode := on }
  else if name = 'x' then { f with spaced := on }
  else f

/-- Passes over blanks and comments. -/
def skipComments : (inComment : Bool) → List Char → List Char
  | _, [] => []
  | true, c :: cs => skipComments (c ≠ '\n') cs
  | false, c :: cs =>
    if Text.isBlank c then skipComments false cs
    else if c = '#' then skipComments true cs
    else c :: cs

def Flags.skip (f : Flags) (cs : List Char) : List Char :=
  if f.spaced then skipComments false cs else cs

/-! ## Escapes -/

/-- What a backslash begins. -/
inductive Escape where
  /-- A character; spelled by two digits it may also be a byte. -/
  | literal (c : Char) (asByte : Bool)
  /-- Digits, blanks or letters of words, or all others. -/
  | charClass (others : Bool)
  /-- The edge of a word, or the lack of one. -/
  | wordEdge
  /-- One of the ends of the text. -/
  | place
  deriving DecidableEq

/-- A number of `count` hexadecimal digits. -/
def hexDigits? (f : Flags) : (count : Nat) → Nat → List Char → Option (Nat × List Char)
  | 0, n, cs => some (n, cs)
  | count + 1, n, cs =>
    match f.skip cs with
    | [] => none
    | d :: rest => do hexDigits? f count (16 * n + (← Json.hexValue? d)) rest

def hexLiteral? (f : Flags) (count : Nat) (cs : List Char) : Option (Escape × List Char) := do
  let (n, rest) ← hexDigits? f count 0 cs
  if n < 0xD800 ∨ (0xDFFF < n ∧ n < 0x110000) then return (.literal (.ofNat n) (count = 2), rest)
  else none

/-- Letters behind a backslash that mean a character, a class or a place. -/
def letterEscapes : List (Char × Escape) := [
  ('a', .literal '\x07' false), ('f', .literal '\x0c' false), ('t', .literal '\t' false),
  ('n', .literal '\n' false), ('r', .literal '\r' false), ('v', .literal '\x0b' false),
  ('d', .charClass false), ('s', .charClass false), ('w', .charClass false),
  ('D', .charClass true), ('S', .charClass true), ('W', .charClass true),
  ('A', .place), ('z', .place),
  ('b', .wordEdge), ('B', .wordEdge), ('<', .wordEdge), ('>', .wordEdge)]

/-- What follows a backslash. Signs of ASCII stand for themselves; properties are not
known. -/
def escape? (f : Flags) : List Char → Option (Escape × List Char)
  | [] => none
  | 'x' :: cs => hexLiteral? f 2 cs
  | 'u' :: cs => hexLiteral? f 4 cs
  | 'U' :: cs => hexLiteral? f 8 cs
  | c :: cs =>
    match letterEscapes.find? (·.1 = c) with
    | some (_, e) => some (e, cs)
    | none => if c.toNat < 0x80 ∧ ¬ c.isAlphanum then some (.literal c false, cs) else none

/-- Whether a character can be told from others that way. -/
def Flags.admitsLiteral (f : Flags) (c : Char) (asByte : Bool) : Bool :=
  if f.unicode then !f.ignoreCase else !asByte || c.toNat < 0x80

/-- Classes are known for bytes only, and may not hold bytes beyond ASCII. -/
def Flags.admitsClass (f : Flags) (others : Bool) : Bool := !f.unicode && !others

/-! ## Depth -/

/-- The most levels of a pattern inside each other. -/
def depthLimit : Nat := 250

/-- The levels of several parts together: one more than the deepest, if there are two
parts or more. -/
def joinedDepth : List Nat → Nat
  | [] => 0
  | [d] => d
  | ds => 1 + ds.foldl max 0

end RecordListing.Pattern
