import RecordListing.Binary64.Reader
import RecordListing.Json.Failure

namespace RecordListing.Json

/-!
# Reading JSON

Each reader takes what is left of the text and returns a value with what is left
after it. Values nest at most `depthLimit` deep. Of repeated members the last one
counts.

A number without fraction and exponent that fits 64 bits is an integer. Any other
number takes as many leading digits as fit 64 bits and scales them by powers of
ten, rounding at every step.
-/

def depthLimit : Nat := 127

def skipBlank : List Char → List Char
  | [] => []
  | c :: cs =>
    if c = ' ' ∨ c = '\n' ∨ c = '\t' ∨ c = '\r' then skipBlank cs else c :: cs

/-- The rest of a word whose first letter is already read. -/
def word : List Char → List Char → Outcome (List Char)
  | [], cs => .ok cs
  | _ :: _, [] => fail .endOfValue []
  | w :: ws, c :: cs => if c = w then word ws cs else failNext .expectedWord (c :: cs)

/-! ## Strings -/

def hexValue? (c : Char) : Option Nat :=
  if c.isDigit then some (c.toNat - '0'.toNat)
  else if 'a' ≤ c ∧ c ≤ 'f' then some (c.toNat - 'a'.toNat + 10)
  else if 'A' ≤ c ∧ c ≤ 'F' then some (c.toNat - 'A'.toNat + 10)
  else none

def byteCount (cs : List Char) : Nat := cs.foldl (fun n c => n + c.utf8Size) 0

/-- Four hexadecimal digits. -/
def hexUnit (cs : List Char) : Outcome (Nat × List Char) :=
  if byteCount (cs.take 4) < 4 then fail .endOfString []
  else match cs with
    | a :: b :: c :: d :: rest =>
      match hexValue? a, hexValue? b, hexValue? c, hexValue? d with
      | some a, some b, some c, some d => .ok (((a * 16 + b) * 16 + c) * 16 + d, rest)
      | _, _, _, _ => .error ⟨.invalidEscape, cs, 4⟩
    | _ => .error ⟨.invalidEscape, cs, 4⟩

/-- The second unit of a pair that `high` begins. -/
def lowSurrogate (high : Nat) : List Char → Outcome (Char × List Char)
  | '\\' :: 'u' :: cs => do
    let (low, rest) ← hexUnit cs
    if low < 0xDC00 ∨ 0xDFFF < low then fail .loneSurrogate rest
    else .ok (.ofNat ((high - 0xD800) * 0x400 + (low - 0xDC00) + 0x10000), rest)
  | ['\\'] => fail .endOfString []
  | '\\' :: cs => failNext .brokenSurrogatePair cs
  | [] => fail .endOfString []
  | cs => failNext .brokenSurrogatePair cs

/-- What follows a backslash. -/
def escape : List Char → Outcome (Char × List Char)
  | [] => fail .endOfString []
  | 'u' :: cs => do
    let (unit, rest) ← hexUnit cs
    if 0xDC00 ≤ unit ∧ unit ≤ 0xDFFF then fail .loneSurrogate rest
    else if 0xD800 ≤ unit ∧ unit ≤ 0xDBFF then lowSurrogate unit rest
    else .ok (.ofNat unit, rest)
  | c :: cs =>
    if c = '"' ∨ c = '\\' ∨ c = '/' then .ok (c, cs)
    else if c = 'b' then .ok ('\x08', cs)
    else if c = 'f' then .ok ('\x0c', cs)
    else if c = 'n' then .ok ('\n', cs)
    else if c = 'r' then .ok ('\r', cs)
    else if c = 't' then .ok ('\t', cs)
    else failNext .invalidEscape (c :: cs)

/-- The characters up to the closing quote; `fuel` bounds their number. -/
def stringChars : Nat → List Char → Outcome (List Char × List Char)
  | _, [] => fail .endOfString []
  | 0, cs => fail .endOfString cs
  | fuel + 1, c :: cs =>
    if c = '"' then .ok ([], cs)
    else if c = '\\' then do
      let (d, rest) ← escape cs
      let (ds, rest) ← stringChars fuel rest
      .ok (d :: ds, rest)
    else if c.toNat < 0x20 then fail .controlCharacter cs
    else do
      let (ds, rest) ← stringChars fuel cs
      .ok (c :: ds, rest)

/-- A string whose opening quote is already read. -/
def string (cs : List Char) : Outcome (String × List Char) := do
  let (chars, rest) ← stringChars cs.length cs
  .ok (.ofList chars, rest)

/-! ## Numbers -/

def power (exponent : Nat) : Binary64 :=
  (Binary64.ofRatio? false (Nat.pow 10 exponent) 1).getD .greatest

def startsWithDigit : List Char → Bool
  | [] => false
  | c :: _ => c.isDigit

/-- Takes digits as long as the number fits 64 bits, and counts them. -/
def takeDigits (n taken : Nat) : List Char → Nat × Nat × List Char
  | [] => (n, taken, [])
  | c :: cs =>
    if c.isDigit ∧ 10 * n + digitValue c < 0x1_0000_0000_0000_0000 then
      takeDigits (10 * n + digitValue c) (taken + 1) cs
    else (n, taken, c :: cs)

/-- `significand · 10 ^ exponent`, rounded at every step; none past the greatest
number. -/
def scale? (significand : Nat) (exponent : Int) : Option Binary64 := do
  let f ← Binary64.ofRatio? false significand 1
  if 0 ≤ exponent then
    if exponent ≤ 308 then f.mul? (power exponent.toNat)
    else if significand = 0 then some .zero else none
  else if -308 ≤ exponent then f.div? (power (-exponent).toNat)
  else if -616 ≤ exponent then do
    let g ← f.div? (power 308)
    g.div? (power (-exponent - 308).toNat)
  else some .zero

def floating (negative : Bool) (significand : Nat) (exponent : Int) (cs : List Char) :
    Outcome (Number × List Char) :=
  match scale? significand exponent with
  | some x => .ok (.float { x with negative }, cs)
  | none => fail .outOfRange cs

/-- The digits of an exponent; none when they exceed 31 bits, with what is left
after the digit that does so. -/
def exponentDigits (n : Nat) : List Char → Option Nat × List Char
  | [] => (some n, [])
  | c :: cs =>
    if c.isDigit then
      if 10 * n + digitValue c < 0x8000_0000 then exponentDigits (10 * n + digitValue c) cs
      else (none, cs)
    else (some n, c :: cs)

/-- What follows the exponent mark. -/
def exponentPart (negative : Bool) (significand : Nat) (exponent : Int) (cs : List Char) :
    Outcome (Number × List Char) :=
  let (down, cs) := takeSign cs
  match cs with
  | [] => fail .endOfValue []
  | c :: rest =>
    if !c.isDigit then failNext .invalidNumber (c :: rest)
    else match exponentDigits (digitValue c) rest with
      | (some e, rest) =>
        floating negative significand (if down then exponent - e else exponent + e) rest
      | (none, rest) =>
        if significand ≠ 0 ∧ !down then fail .outOfRange rest
        else .ok (.float { Binary64.zero with negative }, rest.dropWhile Char.isDigit)

/-- What follows the digits of a number. -/
def exponentOrEnd (negative : Bool) (significand : Nat) (exponent : Int) :
    List Char → Outcome (Number × List Char)
  | 'e' :: cs => exponentPart negative significand exponent cs
  | 'E' :: cs => exponentPart negative significand exponent cs
  | cs => floating negative significand exponent cs

/-- What follows the decimal point. -/
def fractionPart (negative : Bool) (significand : Nat) (exponent : Int) (cs : List Char) :
    Outcome (Number × List Char) :=
  if startsWithDigit cs then
    let (n, taken, rest) := takeDigits significand 0 cs
    exponentOrEnd negative n (exponent - taken) (rest.dropWhile Char.isDigit)
  else if cs.isEmpty then fail .endOfValue []
  else failNext .invalidNumber cs

/-- A significand of 64 bits without fraction and exponent. -/
def wholeNumber (negative : Bool) (n : Nat) : Number :=
  if !negative then .int n
  else if 0 < n ∧ n ≤ 0x8000_0000_0000_0000 then .int (-n)
  else .float { Binary64.ofInt n with negative := true }

/-- A number after its sign. -/
def number (negative : Bool) : List Char → Outcome (Number × List Char)
  | [] => fail .endOfValue []
  | c :: cs =>
    if !c.isDigit then failNext .invalidNumber (c :: cs)
    else if c = '0' ∧ startsWithDigit cs then failNext .invalidNumber cs
    else
      let (n, _, rest) := takeDigits (digitValue c) 0 cs
      let tail := rest.dropWhile Char.isDigit
      let skipped := rest.length - tail.length
      match tail with
      | '.' :: more => fractionPart negative n skipped more
      | 'e' :: more => exponentPart negative n skipped more
      | 'E' :: more => exponentPart negative n skipped more
      | _ =>
        if skipped = 0 then .ok (wholeNumber negative n, tail)
        else floating negative n skipped tail

/-! ## Lists and objects -/

/-- What comes next in a list: its end, or an item. -/
inductive Step where
  | closed (rest : List Char)
  | entry (rest : List Char)

def nextItem (first : Bool) (cs : List Char) : Outcome Step :=
  match skipBlank cs with
  | [] => fail .endOfList []
  | ']' :: rest => .ok (.closed rest)
  | c :: rest =>
    if first then .ok (.entry (c :: rest))
    else if c = ',' then
      match skipBlank rest with
      | [] => fail .endOfValue []
      | ']' :: after => failNext .trailingComma (']' :: after)
      | after => .ok (.entry after)
    else failNext .expectedItemEnd (c :: rest)

/-- The end of a list that can have no further item. -/
def endOfItems (cs : List Char) : Outcome (List Char) :=
  match skipBlank cs with
  | [] => fail .endOfList []
  | ']' :: rest => .ok rest
  | ',' :: rest =>
    match skipBlank rest with
    | ']' :: after => failNext .trailingComma (']' :: after)
    | after => failNext .trailingCharacters after
  | rest => failNext .trailingCharacters rest

def nextMember (first : Bool) (cs : List Char) : Outcome Step :=
  match skipBlank cs with
  | [] => fail .endOfObject []
  | '\x7d' :: rest => .ok (.closed rest)
  | c :: rest =>
    if first then
      if c = '"' then .ok (.entry rest) else failNext .keyNotText (c :: rest)
    else if c = ',' then
      match skipBlank rest with
      | [] => fail .endOfValue []
      | '"' :: after => .ok (.entry after)
      | '\x7d' :: after => failNext .trailingComma ('\x7d' :: after)
      | after => failNext .keyNotText after
    else failNext .expectedMemberEnd (c :: rest)

def colon (cs : List Char) : Outcome (List Char) :=
  match skipBlank cs with
  | [] => fail .endOfObject []
  | ':' :: rest => .ok rest
  | rest => failNext .expectedColon rest

/-- The items of a list whose opening bracket is already read; `fuel` bounds
their number. -/
def items {α : Type} (item : List Char → Outcome (α × List Char)) :
    Nat → Bool → List Char → Outcome (List α × List Char)
  | 0, _, cs => fail .endOfList cs
  | fuel + 1, first, cs => do
    match ← nextItem first cs with
    | .closed rest => .ok ([], rest)
    | .entry rest =>
      let (v, rest) ← item rest
      let (vs, rest) ← items item fuel false rest
      .ok (v :: vs, rest)

/-- The members of an object whose opening brace is already read, each put into
those before it. -/
def members (value : List Char → Outcome (Json × List Char)) :
    Nat → Bool → Members → List Char → Outcome (Members × List Char)
  | 0, _, _, cs => fail .endOfObject cs
  | fuel + 1, first, acc, cs => do
    match ← nextMember first cs with
    | .closed rest => .ok (acc, rest)
    | .entry rest =>
      let (key, rest) ← string rest
      let rest ← colon rest
      let (v, rest) ← value rest
      members value fuel false (Keyed.put key v acc) rest

/-- A value with at most `depth` levels of lists and objects. -/
def value : Nat → List Char → Outcome (Json × List Char)
  | depth, cs =>
    match skipBlank cs with
    | [] => fail .endOfValue []
    | 'n' :: rest => do .ok (.null, ← word ['u', 'l', 'l'] rest)
    | 't' :: rest => do .ok (.bool true, ← word ['r', 'u', 'e'] rest)
    | 'f' :: rest => do .ok (.bool false, ← word ['a', 'l', 's', 'e'] rest)
    | '"' :: rest => do
      let (s, rest) ← string rest
      .ok (.str s, rest)
    | '[' :: rest =>
      match depth with
      | 0 => failNext .tooDeep ('[' :: rest)
      | d + 1 => do
        let (vs, rest) ← items (value d) (rest.length + 1) true rest
        .ok (.arr vs, rest)
    | '\x7b' :: rest =>
      match depth with
      | 0 => failNext .tooDeep ('\x7b' :: rest)
      | d + 1 => do
        let (ms, rest) ← members (value d) (rest.length + 1) true [] rest
        .ok (.obj ms, rest)
    | '-' :: rest => do
      let (n, rest) ← number true rest
      .ok (.num n, rest)
    | c :: rest =>
      if c.isDigit then do
        let (n, rest) ← number false (c :: rest)
        .ok (.num n, rest)
      else failNext .expectedValue (c :: rest)

/-- Reads a whole text with `read`. -/
def whole {α : Type} (read : List Char → Outcome (α × List Char)) (text : String) :
    Except String α :=
  let chars := text.toList
  let outcome := do
    let (v, rest) ← read chars
    match skipBlank rest with
    | [] => .ok v
    | rest => failNext .trailingCharacters rest
  outcome.mapError (Failure.message chars)

def ofText (text : String) : Except String Json := whole (value depthLimit) text

end RecordListing.Json
