namespace RecordListing

/-!
# Binary64 numbers

A finite binary64 number is its sign and the place of its magnitude among all
finite magnitudes, counted up from zero. Magnitudes are whole multiples of
2^-1074, so every comparison and rounding below is exact arithmetic on naturals.
-/

/-- How many magnitudes there are from one power of two to the next, 2^52. -/
def Binary64.binade : Nat := 0x10_0000_0000_0000

structure Binary64 where
  negative : Bool
  ordinal : Nat
  finite : ordinal < 0x7FF * Binary64.binade
  deriving DecidableEq

namespace Binary64

/-- The magnitude with place `o`, as a multiple of 2^-1074. -/
def units (o : Nat) : Nat :=
  if o < 2 * binade then o else (binade + o % binade) <<< (o / binade - 1)

/-- The value as a multiple of 2^-1074. -/
def scaled (x : Binary64) : Int :=
  if x.negative then -(units x.ordinal : Int) else units x.ordinal

def zero : Binary64 := ⟨false, 0, by decide⟩

def greatest : Binary64 := ⟨false, 0x7FF * binade - 1, by decide⟩

def neg (x : Binary64) : Binary64 := { x with negative := !x.negative }

/-- Places in increasing order, the negative zero just below the positive one. -/
def place (x : Binary64) : Int :=
  if x.negative then -(x.ordinal : Int) - 1 else x.ordinal

instance : Ord Binary64 := ⟨fun x y => compare x.place y.place⟩

/-- `num / den` to the nearest natural, a half to the even one. -/
def roundHalfEven (num den : Nat) : Nat :=
  let q := num / den
  let r := num % den
  if 2 * r < den then q
  else if den < 2 * r then q + 1
  else if q % 2 = 0 then q else q + 1

/-- How many binary digits of `num / den` are rounded away. -/
def dropped (num den : Nat) : Nat := Nat.log2 (num / den) - 52

/-- The place of the magnitude nearest to `num / den` units, as if the exponent had
no upper bound. -/
def scaledOrdinal (num den : Nat) : Nat :=
  let p := dropped num den
  p * binade + roundHalfEven num (den <<< p)

/-- The place of the magnitude nearest to `num / den`. -/
def nearestOrdinal (num den : Nat) : Nat := scaledOrdinal (num <<< 1074) den

def ofOrdinal? (negative : Bool) (o : Nat) : Option Binary64 :=
  if h : o < 0x7FF * binade then some ⟨negative, o, h⟩ else none

/-- The number nearest to `num / den`, none past the greatest one. -/
def ofRatio? (negative : Bool) (num den : Nat) : Option Binary64 :=
  ofOrdinal? negative (nearestOrdinal num den)

def ofInt (n : Int) : Binary64 :=
  (ofRatio? (n < 0) n.natAbs 1).getD { greatest with negative := n < 0 }

def mul? (x y : Binary64) : Option Binary64 :=
  ofRatio? (x.negative != y.negative) (units x.ordinal * units y.ordinal) (1 <<< 2148)

/-- The quotient by a number other than zero. -/
def div? (x y : Binary64) : Option Binary64 :=
  ofRatio? (x.negative != y.negative) (units x.ordinal) (units y.ordinal)

/-- The integer that the number is, if it is one. -/
def toInt? (x : Binary64) : Option Int :=
  let u := units x.ordinal
  if u % (1 <<< 1074) = 0 then
    some (if x.negative then -((u >>> 1074 : Nat) : Int) else (u >>> 1074 : Nat))
  else none

def isZero (x : Binary64) : Bool := x.ordinal == 0

end Binary64

end RecordListing
