import RecordListing.Binary64.Shortest

namespace RecordListing.Binary64

/-!
# Written forms of binary64 numbers

One printer for every notation: a `Notation` says which numbers are written
positionally and how the others carry their exponent.
-/

structure Notation where
  /-- The least and the greatest leading exponent written positionally; without
  bounds every number is. -/
  positional : Option (Int × Int)
  /-- An integer is written with `.0`. -/
  pointZero : Bool
  /-- A positive exponent carries its sign. -/
  plusSign : Bool

def zeros (n : Nat) : List Char := List.replicate n '0'

/-- The digits with the point where `exponent` puts it. -/
def positionalText (style : Notation) (digits : List Char) (exponent : Int) : List Char :=
  if exponent < 0 then '0' :: '.' :: (zeros (-exponent - 1).toNat ++ digits)
  else
    let whole := exponent.toNat + 1
    if digits.length ≤ whole then
      digits ++ zeros (whole - digits.length) ++ (if style.pointZero then ['.', '0'] else [])
    else digits.take whole ++ '.' :: digits.drop whole

def scientificText (style : Notation) (digits : List Char) (exponent : Int) : List Char :=
  let mantissa := match digits with
    | [] => []
    | [d] => [d]
    | d :: rest => d :: '.' :: rest
  let sign := if exponent < 0 then ['-'] else if style.plusSign then ['+'] else []
  mantissa ++ 'e' :: (sign ++ Nat.toDigits 10 exponent.natAbs)

def Notation.write (style : Notation) (x : Binary64) : List Char :=
  let d := shortest x.ordinal
  let digits := Nat.toDigits 10 d.digits
  let exponent := d.exponent + (digits.length - 1 : Nat)
  let positional := match style.positional with
    | none => true
    | some (low, high) => low ≤ exponent && exponent ≤ high
  (if x.negative then ['-'] else []) ++
    (if positional then positionalText style digits exponent
     else scientificText style digits exponent)

end RecordListing.Binary64
