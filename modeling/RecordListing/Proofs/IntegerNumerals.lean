import Mathlib
import RecordListing.Json.Reader
import RecordListing.Proofs.ShownNumbers

namespace RecordListing

/-!
# Numerals of integer columns

An integer has one numeral, without a fraction, an exponent or zeros in front. In an integer
column a number that is an integer shows as its numeral, whether it was written as an integer or
not, and no other number shows as an integer does.
-/

open Spelling

/-! ## Numerals -/

/-- A minus sign before the negative integers alone, and then digits, the first of which is zero
only if it is the only one. -/
def Spelling.IsNumeral (cs : List Char) (n : Int) : Prop :=
  ∃ digits, cs = (if n < 0 then ['-'] else []) ++ digits ∧ digits ≠ [] ∧
    (∀ c ∈ digits, c.isDigit) ∧ IsCanonical digits ∧ digitsValue digits = n.natAbs

/-- There is one numeral for each integer. -/
theorem isNumeral_iff {cs : List Char} {n : Int} : IsNumeral cs n ↔ cs = integerText n := by
  constructor
  · rintro ⟨digits, rfl, hne, hdigits, hcanonical, hvalue⟩
    rw [integerText, ← hvalue, ← naturalOf_eq_digitsValue,
      toDigits_naturalOf hdigits hne hcanonical]
  · rintro rfl
    exact ⟨_, rfl, Nat.toDigits_ne_nil, fun _ => Binary64.isDigit_of_mem_toDigits,
      isCanonical_toDigits _, Binary64.digitsValue_toDigits _⟩

/-! ## Values of numbers -/

namespace Binary64

/-- The value of a number, counted in units of 2^-1074. -/
def value (x : Binary64) : ℚ := x.scaled / 2 ^ 1074

theorem value_eq_iff {x : Binary64} {n : Int} : x.value = n ↔ x.scaled = n * 2 ^ 1074 := by
  unfold value
  generalize 1074 = k
  rw [div_eq_iff (pow_ne_zero k two_ne_zero)]
  exact_mod_cast Iff.rfl

theorem toInt?_eq_some_iff {x : Binary64} {n : Int} : x.toInt? = some n ↔ x.value = n := by
  rw [value_eq_iff]
  unfold toInt? scaled
  dsimp only
  generalize units x.ordinal = u
  generalize 1074 = k
  have hpos : (2 : Int) ^ k ≠ 0 := pow_ne_zero k two_ne_zero
  rw [Nat.one_shiftLeft, Nat.shiftRight_eq_div_pow]
  by_cases hdvd : 2 ^ k ∣ u
  · obtain ⟨q, rfl⟩ := hdvd
    rw [if_pos (Nat.mul_mod_right _ _), Nat.mul_div_cancel_left q (Nat.two_pow_pos k),
      Option.some_inj]
    cases x.negative <;> push_cast <;> rw [mul_comm] <;> simp [hpos, ← neg_mul]
  · rw [if_neg (mt Nat.dvd_of_mod_eq_zero hdvd)]
    refine iff_of_false (Option.some_ne_none n).symm fun hscaled => hdvd ?_
    have hint : ((2 ^ k : Nat) : Int) ∣ u := by
      refine ⟨if x.negative then -n else n, ?_⟩
      push_cast
      cases hsign : x.negative <;> rw [hsign] at hscaled
      · simpa [mul_comm] using hscaled
      · simp only [↓reduceIte] at hscaled ⊢
        linarith
    exact Int.natCast_dvd_natCast.mp hint

end Binary64

namespace Number

def value : Number → ℚ
  | .int n => n
  | .float x => x.value

/-- A number that is the integer `n`, which is below 10^18 in magnitude unless it was written as
an integer. -/
def Denotes (a : Number) (n : Int) : Prop :=
  a.value = n ∧ ∀ x, a = .float x → n.natAbs < 10 ^ 18

theorem shownInteger?_eq_some_iff {a : Number} {n : Int} :
    a.shownInteger? = some n ↔ a.Denotes n := by
  cases a with
  | int m => simp [shownInteger?, Denotes, value]
  | float x =>
      simp [shownInteger?, Denotes, value, Option.filter_eq_some_iff, Binary64.toInt?_eq_some_iff]

/-- A number that is an integer shows as the numeral of this integer, if it was written as an
integer or is below 10^18 in magnitude. So two such numbers are shown alike just if they are the
same integer, and a number that is no integer is shown like none that is one, however great. -/
theorem integralText_isNumeral :
    (∀ (a : Number) (n : Int), a.Denotes n → IsNumeral (Json.integralText (.num a)).toList n) ∧
    (∀ (a b : Number) (m n : Int), a.Denotes m → b.Denotes n →
      (Json.integralText (.num a) = Json.integralText (.num b) ↔ m = n)) ∧
    ∀ a b : Number, (¬ ∃ m : Int, a.value = m) → (∃ n : Int, b.value = n) →
      Json.integralText (.num a) ≠ Json.integralText (.num b) := by
  have htext {a : Number} {n : Int} (h : a.Denotes n) :
      Json.integralText (.num a) = .ofList (integerText n) :=
    integralText_of_shownInteger? (shownInteger?_eq_some_iff.mpr h)
  refine ⟨fun a n h => ?_, fun a b m n hm hn => ?_, fun a b ha hb heq => ?_⟩
  · rw [htext h, String.toList_ofList, isNumeral_iff]
  · rw [htext hm, htext hn, String.ofList_inj, integerText_injective.eq_iff]
  · rcases integralText_eq_iff.mp heq with rfl | ⟨n, hn, -⟩
    · exact ha hb
    · exact ha ⟨n, (shownInteger?_eq_some_iff.mp hn).1⟩

/-- The number that a JSON text is read as. -/
def ofJsonText? (text : String) : Option Number :=
  match Json.ofText text with
  | .ok (.num a) => some a
  | _ => none

/-- Three spellings of one integer, and the next number above it. -/
theorem integralText_isNumeral_twenty :
    let next : Binary64 := ⟨false, 0x4034_0000_0000_0001, by decide⟩
    ∃ a b c : Number, ofJsonText? "20" = some a ∧ ofJsonText? "20.0" = some b ∧
      ofJsonText? "2e1" = some c ∧ ofJsonText? "20.000000000000004" = some (.float next) ∧
      IsNumeral (Json.integralText (.num a)).toList 20 ∧
      Json.integralText (.num a) = Json.integralText (.num b) ∧
      Json.integralText (.num b) = Json.integralText (.num c) ∧
      Json.integralText (.num (.float next)) ≠ Json.integralText (.num c) := by
  intro next
  have hread (text : String) (h : (ofJsonText? text).any (·.shownInteger? = some 20) = true) :
      ∃ a, ofJsonText? text = some a ∧ a.Denotes 20 := by
    obtain ⟨a, ha, hshown⟩ := (Option.any_eq_true _ _).mp h
    exact ⟨a, ha, shownInteger?_eq_some_iff.mp (of_decide_eq_true hshown)⟩
  obtain ⟨a, ha, hdenotes⟩ := hread "20" (by decide)
  obtain ⟨b, hb, hdenotes'⟩ := hread "20.0" (by set_option maxRecDepth 4000 in decide)
  obtain ⟨c, hc, hdenotes''⟩ := hread "2e1" (by set_option maxRecDepth 4000 in decide)
  have hnext : ofJsonText? "20.000000000000004" = some (.float next) := by
    set_option maxRecDepth 4000 in decide
  have hfraction : next.toInt? = none := by decide
  obtain ⟨hnumeral, halike, hapart⟩ := integralText_isNumeral
  refine ⟨a, b, c, ha, hb, hc, hnext, hnumeral a 20 hdenotes,
    (halike a b 20 20 hdenotes hdenotes').mpr rfl, (halike b c 20 20 hdenotes' hdenotes'').mpr rfl,
    hapart (.float next) c ?_ ⟨20, hdenotes''.1⟩⟩
  rintro ⟨m, hm⟩
  cases hfraction.symm.trans (Binary64.toInt?_eq_some_iff.mpr hm)

end Number

end RecordListing
