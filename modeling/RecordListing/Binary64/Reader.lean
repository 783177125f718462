import RecordListing.Binary64.Shortest
import RecordListing.Text.Blank
import RecordListing.Text.Lowercase

namespace RecordListing

/-!
# Numbers written in text

Integers with an optional sign within given bounds, and decimals with an optional
fraction and exponent. A decimal is read as the nearest binary64 number; the words
for infinity and not-a-number are read too.
-/

def digitValue (c : Char) : Nat := c.toNat - '0'.toNat

def naturalOf (digits : List Char) : Nat :=
  digits.foldl (fun n c => 10 * n + digitValue c) 0

/-- The sign in front of a number, and the rest. -/
def takeSign : List Char → Bool × List Char
  | '-' :: cs => (true, cs)
  | '+' :: cs => (false, cs)
  | cs => (false, cs)

/-- An optional sign and digits, denoting an integer from `low` to `high`. -/
def integerOf? (low high : Int) (cs : List Char) : Option Int :=
  let (negative, digits) := takeSign cs
  if digits.isEmpty || !digits.all Char.isDigit then none
  else
    let n : Int := if negative then -(naturalOf digits : Int) else naturalOf digits
    if low ≤ n ∧ n ≤ high then some n else none

namespace Binary64

/-- The number nearest to `digits · 10 ^ exponent`, none past the greatest one.
Exponents far outside the range are settled without computing the power. -/
def ofDecimal? (negative : Bool) (d : Decimal) : Option Binary64 :=
  let size := d.exponent + digitCount d.digits
  if d.digits = 0 ∨ size < -400 then some { zero with negative }
  else if 400 < size then none
  else ofRatio? negative (d.digits * Nat.pow 10 d.exponent.toNat)
    (Nat.pow 10 (-d.exponent).toNat)

/-- A binary64 number with the infinities and not-a-number. -/
inductive Extended where
  | finite (x : Binary64)
  | infinite (negative : Bool)
  | notANumber
  deriving DecidableEq

namespace Extended

/-- An exponent mark and its digits, at the end of a decimal. -/
def exponentOf? : List Char → Option Int
  | [] => some 0
  | c :: cs =>
    if c = 'e' ∨ c = 'E' then
      let (negative, digits) := takeSign cs
      if digits.isEmpty || !digits.all Char.isDigit then none
      else some (if negative then -(naturalOf digits : Int) else naturalOf digits)
    else none

/-- Digits, an optional fraction and an optional exponent; the point may stand at
either end, but not alone. -/
def decimalOf? (cs : List Char) : Option Decimal :=
  let whole := cs.takeWhile Char.isDigit
  let rest := cs.dropWhile Char.isDigit
  let (fraction, tail) := match rest with
    | '.' :: more => (more.takeWhile Char.isDigit, more.dropWhile Char.isDigit)
    | _ => ([], rest)
  if whole.isEmpty && fraction.isEmpty then none
  else (exponentOf? tail).map fun e => ⟨naturalOf (whole ++ fraction), e - fraction.length⟩

def ofText? (cs : List Char) : Option Extended :=
  let (negative, body) := takeSign cs
  let word := String.ofList (body.map Char.toLower)
  if word = "inf" ∨ word = "infinity" then some (.infinite negative)
  else if word = "nan" then some .notANumber
  else (decimalOf? body).map fun d =>
    match ofDecimal? negative d with
    | some x => .finite x
    | none => .infinite negative

end Extended

end Binary64

end RecordListing
