import RecordListing.Binary64.Basic

namespace RecordListing.Binary64

/-!
# The fewest digits that read back

A decimal reads back as the magnitude with place `o` when it lies between the
midpoints to the two neighbours, the midpoints themselves included for even
places. The shortest decimal is found on the grids of 1, 2, … 17 digits.
-/

/-- `digits · 10 ^ exponent` -/
structure Decimal where
  digits : Nat
  exponent : Int
  deriving DecidableEq

def digitCount (n : Nat) : Nat := (Nat.toDigits 10 n).length

/-- The exponent of the leading digit of `num / den`. -/
def leadingExponent (num den : Nat) : Int :=
  let k : Int := digitCount num - digitCount den
  let atLeast := if 0 ≤ k then den * Nat.pow 10 k.toNat ≤ num else den ≤ num * Nat.pow 10 (-k).toNat
  if atLeast then k else k - 1

/-- `digits · 10 ^ exponent` lies where it reads back as the place `o`. -/
def readsBack (o : Nat) (d : Decimal) : Bool :=
  let low := units (o - 1) + units o
  let high := units o + units (o + 1)
  let up := Nat.pow 10 (-d.exponent).toNat
  let at_ := d.digits <<< 1075 * Nat.pow 10 d.exponent.toNat
  if o % 2 = 0 then low * up ≤ at_ && at_ ≤ high * up else low * up < at_ && at_ < high * up

/-- The best decimal on the grid of multiples of `10 ^ exponent`, if one of the
value's two neighbours there reads back. -/
def onGrid? (o : Nat) (exponent : Int) : Option Decimal :=
  let value := 2 * units o * Nat.pow 10 (-exponent).toNat
  let step := 1 <<< 1075 * Nat.pow 10 exponent.toNat
  let below := value / step
  let rest := value % step
  let d : Decimal := ⟨below, exponent⟩
  let u : Decimal := ⟨below + 1, exponent⟩
  match readsBack o d, readsBack o u with
  | false, false => none
  | true, false => some d
  | false, true => some u
  | true, true =>
    if 2 * rest < step then some d
    else if step < 2 * rest then some u
    else some (if below % 2 = 0 then d else u)

/-- Trailing zeros moved into the exponent. -/
def Decimal.normal : Nat → Decimal → Decimal
  | 0, d => d
  | fuel + 1, d =>
    if d.digits ≠ 0 ∧ d.digits % 10 = 0 then
      Decimal.normal fuel ⟨d.digits / 10, d.exponent + 1⟩
    else d

/-- The shortest decimal that reads back as the place `o`. -/
def shortest (o : Nat) : Decimal :=
  if o = 0 then ⟨0, 0⟩
  else
    let lead := leadingExponent (2 * units o) (1 <<< 1075)
    match (List.range 17).findSome? fun (n : Nat) => onGrid? o (lead - (n : Int)) with
    | some d => d.normal 20
    | none => ⟨0, 0⟩

end RecordListing.Binary64
