import RecordListing.Binary64.Notation
import RecordListing.Json.Basic

namespace RecordListing

/-!
# Writing JSON

The compact form has no blanks. The indented form puts each item and member on a
line of its own, two columns further in than its parent. Members are written in
the order in which they stand.
-/

/-- Numbers with a leading exponent from -5 to 15 are written positionally, always
with a fraction; a positive exponent carries its sign. -/
def Number.style : Binary64.Notation := ⟨some (-5, 15), true, true⟩

def integerText (n : Int) : List Char :=
  (if n < 0 then ['-'] else []) ++ Nat.toDigits 10 n.natAbs

def Number.write : Number → List Char
  | .int n => integerText n
  | .float x => Number.style.write x

namespace Json

def hexDigit (n : Nat) : Char := Nat.digitChar n

/-- A character within a string: quotes, backslashes and controls are escaped. -/
def escapedChar (c : Char) : List Char :=
  if c = '"' then ['\\', '"']
  else if c = '\\' then ['\\', '\\']
  else if c.toNat < 0x20 then
    if c.toNat = 0x08 then ['\\', 'b']
    else if c = '\t' then ['\\', 't']
    else if c = '\n' then ['\\', 'n']
    else if c.toNat = 0x0C then ['\\', 'f']
    else if c = '\r' then ['\\', 'r']
    else ['\\', 'u', '0', '0', hexDigit (c.toNat / 16), hexDigit (c.toNat % 16)]
  else [c]

def quotedText (s : String) : List Char := '"' :: (s.toList.flatMap escapedChar ++ ['"'])

mutual

def compact : Json → List Char
  | .null => ['n', 'u', 'l', 'l']
  | .bool true => ['t', 'r', 'u', 'e']
  | .bool false => ['f', 'a', 'l', 's', 'e']
  | .num n => n.write
  | .str s => quotedText s
  | .arr [] => ['[', ']']
  | .arr (v :: vs) => '[' :: (compact v ++ compactItems vs)
  | .obj [] => ['\x7b', '\x7d']
  | .obj ((k, v) :: ms) => '\x7b' :: (quotedText k ++ ':' :: (compact v ++ compactMembers ms))

/-- The items after the first, with the closing bracket. -/
def compactItems : List Json → List Char
  | [] => [']']
  | v :: vs => ',' :: (compact v ++ compactItems vs)

/-- The members after the first, with the closing brace. -/
def compactMembers : Members → List Char
  | [] => ['\x7d']
  | (k, v) :: ms => ',' :: (quotedText k ++ ':' :: (compact v ++ compactMembers ms))

end

def newLine (depth : Nat) : List Char := '\n' :: List.replicate (2 * depth) ' '

mutual

/-- The indented form of a value whose own line is `depth` steps in. -/
def indented (depth : Nat) : Json → List Char
  | .arr [] => ['[', ']']
  | .arr (v :: vs) =>
    '[' :: (newLine (depth + 1) ++ indented (depth + 1) v ++ indentedItems depth vs)
  | .obj [] => ['\x7b', '\x7d']
  | .obj ((k, v) :: ms) =>
    '\x7b' :: (newLine (depth + 1) ++ quotedText k ++ ':' :: ' ' ::
      (indented (depth + 1) v ++ indentedMembers depth ms))
  | .null => ['n', 'u', 'l', 'l']
  | .bool true => ['t', 'r', 'u', 'e']
  | .bool false => ['f', 'a', 'l', 's', 'e']
  | .num n => n.write
  | .str s => quotedText s

def indentedItems (depth : Nat) : List Json → List Char
  | [] => newLine depth ++ [']']
  | v :: vs => ',' :: (newLine (depth + 1) ++ indented (depth + 1) v ++ indentedItems depth vs)

def indentedMembers (depth : Nat) : Members → List Char
  | [] => newLine depth ++ ['\x7d']
  | (k, v) :: ms =>
    ',' :: (newLine (depth + 1) ++ quotedText k ++ ':' :: ' ' ::
      (indented (depth + 1) v ++ indentedMembers depth ms))

end

def toText (v : Json) : String := .ofList v.compact

def toIndentedText (v : Json) : String := .ofList (v.indented 0)

end Json

end RecordListing
