import RecordListing.Json.Reader
import RecordListing.Toml.Instant

namespace RecordListing.Toml

/-!
# Reading TOML

Each reader takes what is left of the text and returns a value with what is left
after it, or nothing if the text breaks a rule of TOML 1.0. Values, and the parts
of a dotted key, nest less than `nestingLimit` deep.
-/

def nestingLimit : Nat := 80

/-! ## Blanks, comments and line ends -/

def skipBlank (cs : List Char) : List Char := cs.dropWhile fun c => c = ' ' || c = '\t'

/-- Characters of comments and literal strings. -/
def isPlain (c : Char) : Bool := c = '\t' || (0x20 ≤ c.toNat && c.toNat ≠ 0x7F)

def lineEnd? : List Char → Option (List Char)
  | '\n' :: cs => some cs
  | '\r' :: '\n' :: cs => some cs
  | _ => none

/-- The end of a comment, if one stands next. -/
def skipComment : List Char → List Char
  | '#' :: cs => cs.dropWhile isPlain
  | cs => cs

/-- The rest of a line on which nothing else may stand. -/
def restOfLine? (cs : List Char) : Option (List Char) :=
  match skipComment (skipBlank cs) with
  | [] => some []
  | cs => lineEnd? cs

/-- Passes over blanks, comments and line ends; `fuel` bounds the lines. -/
def skipLines : Nat → List Char → List Char
  | 0, cs => cs
  | fuel + 1, cs =>
    let rest := skipComment (skipBlank cs)
    match lineEnd? rest with
    | some after => skipLines fuel after
    | none => rest

/-! ## Strings -/

/-- A character spelled by `count` hexadecimal digits. -/
def unicode? (count : Nat) (cs : List Char) : Option (Char × List Char) := do
  let ds ← (cs.take count).mapM Json.hexValue?
  if ds.length = count then
    let n := ds.foldl (fun n d => 16 * n + d) 0
    if n < 0xD800 ∨ (0xDFFF < n ∧ n < 0x110000) then some (.ofNat n, cs.drop count) else none
  else none

/-- What follows a backslash. -/
def escape? : List Char → Option (Char × List Char)
  | 'b' :: cs => some ('\x08', cs)
  | 't' :: cs => some ('\t', cs)
  | 'n' :: cs => some ('\n', cs)
  | 'f' :: cs => some ('\x0c', cs)
  | 'r' :: cs => some ('\r', cs)
  | '"' :: cs => some ('"', cs)
  | '\\' :: cs => some ('\\', cs)
  | 'u' :: cs => unicode? 4 cs
  | 'U' :: cs => unicode? 8 cs
  | _ => none

def basicString? : Nat → List Char → Option (List Char × List Char)
  | 0, _ => none
  | _, [] => none
  | fuel + 1, c :: cs =>
    if c = '"' then some ([], cs)
    else if c = '\\' then do
      let (d, rest) ← escape? cs
      let (ds, rest) ← basicString? fuel rest
      return (d :: ds, rest)
    else if isPlain c then do
      let (ds, rest) ← basicString? fuel cs
      return (c :: ds, rest)
    else none

def literalString? (cs : List Char) : Option (List Char × List Char) :=
  match cs.dropWhile fun c => isPlain c && c ≠ '\'' with
  | '\'' :: rest => some (cs.takeWhile fun c => isPlain c && c ≠ '\'', rest)
  | _ => none

/-- Blanks and line ends after a backslash at the end of a line. -/
def skipFold (cs : List Char) : List Char :=
  cs.dropWhile fun c => c = ' ' || c = '\t' || c = '\n'

/-- The number of quotes that stand next. -/
def leadingQuotes (quote : Char) (cs : List Char) : Nat := (cs.takeWhile (· = quote)).length

/-- The body of a string over several lines, whose line ends are already one
character each. Up to two quotes may stand before the closing three. -/
def longString? (quote : Char) : Nat → List Char → Option (List Char × List Char)
  | 0, _ => none
  | _, [] => none
  | fuel + 1, c :: cs =>
    if c = quote then
      let n := leadingQuotes quote (c :: cs)
      if n < 3 then do
        let (ds, rest) ← longString? quote fuel cs
        return (c :: ds, rest)
      else if n ≤ 5 then
        some (List.replicate (n - 3) quote, (c :: cs).drop n)
      else none
    else if c = '\\' ∧ quote = '"' then
      match skipBlank cs with
      | '\n' :: after => longString? quote fuel (skipFold after)
      | _ => do
        let (d, rest) ← escape? cs
        let (ds, rest) ← longString? quote fuel rest
        return (d :: ds, rest)
    else if isPlain c ∨ c = '\n' then do
      let (ds, rest) ← longString? quote fuel cs
      return (c :: ds, rest)
    else none

/-- Line ends as one character. -/
def unifyLineEnds : List Char → List Char
  | '\r' :: '\n' :: cs => '\n' :: unifyLineEnds cs
  | c :: cs => c :: unifyLineEnds cs
  | [] => []

/-- A line end right after the opening quotes does not count. -/
def skipFirstLineEnd : List Char → List Char
  | '\n' :: cs => cs
  | cs => cs

/-! ## Keys -/

def isBare (c : Char) : Bool := c.isAlphanum || c = '-' || c = '_'

def simpleKey? : List Char → Option (String × List Char)
  | '"' :: cs => do
    let (s, rest) ← basicString? (cs.length + 1) cs
    return (.ofList s, rest)
  | '\'' :: cs => do
    let (s, rest) ← literalString? cs
    return (.ofList s, rest)
  | cs =>
    let name := cs.takeWhile isBare
    if name.isEmpty then none else some (.ofList name, cs.dropWhile isBare)

/-- A dotted key, with blanks around it and its parts. -/
def key? : Nat → List Char → Option (List String × List Char)
  | 0, _ => none
  | fuel + 1, cs => do
    let (part, rest) ← simpleKey? (skipBlank cs)
    match skipBlank rest with
    | '.' :: more =>
      let (parts, rest) ← key? fuel more
      return (part :: parts, rest)
    | rest => return ([part], rest)

/-- The parents and the last part of a dotted key. -/
def keyPath? (cs : List Char) : Option (List String × String × List Char) := do
  let (parts, rest) ← key? (nestingLimit - 1) cs
  let last ← parts.getLast?
  return (parts.dropLast, last, rest)

/-! ## Numbers and dates -/

/-- Digits with underscores between them, the underscores taken out. -/
def plainDigits? (isDigit : Char → Bool) : List Char → Option (List Char)
  | [] => none
  | [c] => if isDigit c then some [c] else none
  | c :: '_' :: cs => if isDigit c then (plainDigits? isDigit cs).map (c :: ·) else none
  | c :: cs => if isDigit c then (plainDigits? isDigit cs).map (c :: ·) else none

def hasLeadingZero : List Char → Bool
  | '0' :: _ :: _ => true
  | _ => false

def fits64 (n : Int) : Option Toml :=
  if -0x8000_0000_0000_0000 ≤ n ∧ n < 0x8000_0000_0000_0000 then some (.integer n) else none

/-- Digits in a base of two, eight or sixteen. -/
def radixInteger? (base : Nat) (cs : List Char) : Option Toml := do
  let ds ← plainDigits? (fun c => (Json.hexValue? c).any (· < base)) cs
  fits64 (ds.foldl (fun n c => base * n + (Json.hexValue? c).getD 0) 0 : Nat)

/-- The digits of a decimal integer without its sign. -/
def decimalDigits? (cs : List Char) : Option (List Char) := do
  let ds ← plainDigits? Char.isDigit cs
  if hasLeadingZero ds then none else some ds

def integer? (token : List Char) : Option Toml :=
  match token with
  | '0' :: 'x' :: cs => radixInteger? 16 cs
  | '0' :: 'o' :: cs => radixInteger? 8 cs
  | '0' :: 'b' :: cs => radixInteger? 2 cs
  | _ => do
    let (negative, cs) := takeSign token
    let n : Int := naturalOf (← decimalDigits? cs)
    fits64 (if negative then -n else n)

/-- The exponent of a float, whose mark is already read. -/
def exponent? (cs : List Char) : Option Int := do
  let (negative, cs) := takeSign cs
  let n : Int := naturalOf (← plainDigits? Char.isDigit cs)
  return (if negative then -n else n)

def isExponentMark (c : Char) : Bool := c = 'e' || c = 'E'

/-- A float has a fraction or an exponent; one too great is an error, one too small
is the negative infinity. -/
def float? (token : List Char) : Option Toml := do
  let (negative, cs) := takeSign token
  if cs = ['i', 'n', 'f'] then return .float (.infinite negative)
  if cs = ['n', 'a', 'n'] then return .float .notANumber
  let mantissa := cs.takeWhile fun c => !isExponentMark c
  let exponent ← match cs.dropWhile fun c => !isExponentMark c with
    | [] => some 0
    | _ :: rest => exponent? rest
  let whole ← decimalDigits? (mantissa.takeWhile (· ≠ '.'))
  let fraction ← match mantissa.dropWhile (· ≠ '.') with
    | [] => if mantissa.length = cs.length then none else some []
    | _ :: rest => plainDigits? Char.isDigit rest
  match Binary64.ofDecimal? negative
    ⟨naturalOf (whole ++ fraction), exponent - fraction.length⟩ with
  | some x => return .float (.finite x)
  | none => if negative then return .float (.infinite true) else none

/-- A time of day after a date. -/
def dated? (date cs : List Char) : Option Toml := do
  let (time, rest) ← time? 23 cs
  let offset ← offset? rest
  return .instant (.ofList (date ++ 'T' :: time ++ offset))

def isTokenChar (c : Char) : Bool :=
  c.isAlphanum || c = '+' || c = '-' || c = '_' || c = '.' || c = ':'

/-- A date, a time, a float or an integer. A blank may stand between a date and a
time. -/
def number? (cs : List Char) : Option (Toml × List Char) :=
  let token := cs.takeWhile isTokenChar
  let rest := cs.dropWhile isTokenChar
  match date? token with
  | some (date, []) =>
    match rest with
    | ' ' :: d :: more =>
      if d.isDigit then do
        let next := d :: more
        let v ← dated? date (next.takeWhile isTokenChar)
        return (v, next.dropWhile isTokenChar)
      else some (.instant (.ofList date), rest)
    | _ => some (.instant (.ofList date), rest)
  | some (date, mark :: time) =>
    if mark = 'T' ∨ mark = 't' then (dated? date time).map (·, rest) else none
  | none =>
    match time? 23 token with
    | some (time, []) => some (.instant (.ofList time), rest)
    | some _ => none
    | none => ((float? token).or (integer? token)).map (·, rest)

/-! ## Values -/

/-- The items of an array whose opening bracket is already read. -/
def items? (value : List Char → Option (Toml × List Char)) :
    Nat → List Char → Option (List Toml × List Char)
  | 0, _ => none
  | fuel + 1, cs =>
    match skipLines (cs.length + 1) cs with
    | ']' :: rest => some ([], rest)
    | cs => do
      let (v, rest) ← value cs
      match skipLines (rest.length + 1) rest with
      | ',' :: rest =>
        let (vs, rest) ← items? value fuel rest
        return (v :: vs, rest)
      | ']' :: rest => return ([v], rest)
      | _ => none

/-- The members of a table within a line, after its opening brace and as far as
they are known. -/
def inlineMembers? (value : List Char → Option (Toml × List Char)) :
    Nat → Tree → List Char → Option (Tree × List Char)
  | 0, _, _ => none
  | fuel + 1, t, cs => do
    let (path, key, rest) ← keyPath? cs
    match rest with
    | '=' :: rest =>
      let (v, rest) ← value (skipBlank rest)
      let t ← t.addKey key v path
      match skipBlank rest with
      | ',' :: rest => inlineMembers? value fuel t rest
      | '\x7d' :: rest => return (t, rest)
      | _ => none
    | _ => none

def inlineTable? (value : List Char → Option (Toml × List Char)) (cs : List Char) :
    Option (Toml × List Char) :=
  match skipBlank cs with
  | '\x7d' :: rest => some (.table [], rest)
  | cs => do
    let (t, rest) ← inlineMembers? value (cs.length + 1) [] cs
    return ((Node.table .header t).toToml, rest)

def string? (cs : List Char) : Option (Toml × List Char) := do
  let (s, rest) ← match cs with
    | '"' :: '"' :: '"' :: body =>
      let body := skipFirstLineEnd (unifyLineEnds body)
      longString? '"' (body.length + 1) body
    | '\'' :: '\'' :: '\'' :: body =>
      let body := skipFirstLineEnd (unifyLineEnds body)
      longString? '\'' (body.length + 1) body
    | '"' :: body => basicString? (body.length + 1) body
    | '\'' :: body => literalString? body
    | _ => none
  return (.text (.ofList s), rest)

/-- A value with fewer than the given number of arrays and tables within a line
inside each other. -/
def value? : Nat → List Char → Option (Toml × List Char)
  | depth, cs =>
    match cs with
    | '"' :: _ => string? cs
    | '\'' :: _ => string? cs
    | '[' :: rest =>
      match depth with
      | 0 => none
      | d + 1 => do
        let (vs, rest) ← items? (value? d) (rest.length + 1) rest
        return (.array vs, rest)
    | '\x7b' :: rest =>
      match depth with
      | 0 => none
      | d + 1 => inlineTable? (value? d) rest
    | 't' :: 'r' :: 'u' :: 'e' :: rest => some (.bool true, rest)
    | 'f' :: 'a' :: 'l' :: 's' :: 'e' :: rest => some (.bool false, rest)
    | _ => number? cs

/-! ## Documents -/

/-- The document as far as it is read, and the path of the table that is open. -/
structure Document where
  root : Tree
  current : List String

namespace Document

/-- A header, with what it opens, after its brackets. -/
def header? (d : Document) (opening : String → Tree → Option Tree) (closing : List Char)
    (cs : List Char) : Option (Document × List Char) := do
  let (path, key, rest) ← keyPath? cs
  if closing.isPrefixOf rest then
    let root ← d.root.changeAt (opening key) path
    return (⟨root, path ++ [key]⟩, rest.drop closing.length)
  else none

def keyValue? (d : Document) (cs : List Char) : Option (Document × List Char) := do
  let (path, key, rest) ← keyPath? cs
  match rest with
  | '=' :: rest =>
    let (v, rest) ← value? (nestingLimit - 1) (skipBlank rest)
    let root ← d.root.changeAt (Tree.addKey key v path) d.current
    return ({ d with root }, rest)
  | _ => none

/-- What stands on a line besides blanks and a comment. -/
def line? (d : Document) : List Char → Option (Document × List Char)
  | '[' :: '[' :: cs => d.header? Tree.openElement [']', ']'] cs
  | '[' :: cs => d.header? Tree.openTable [']'] cs
  | cs => d.keyValue? cs

def lines? : Nat → Document → List Char → Option Document
  | 0, _, _ => none
  | fuel + 1, d, cs =>
    match skipLines (cs.length + 1) cs with
    | [] => some d
    | cs => do
      let (d, rest) ← d.line? cs
      lines? fuel d (← restOfLine? rest)

end Document

def skipMark : List Char → List Char
  | '\uFEFF' :: cs => cs
  | cs => cs

/-- The value of a document: its root table, or the instant that it stands for. A
byte order mark may stand in front. -/
def ofText? (text : String) : Option Toml := do
  let cs := skipMark text.toList
  let d ← Document.lines? (cs.length + 1) ⟨[], []⟩ cs
  (Node.table .header d.root).toToml.resolved?

end RecordListing.Toml
