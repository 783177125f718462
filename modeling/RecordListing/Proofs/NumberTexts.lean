import Mathlib
import RecordListing.OrderKey
import RecordListing.Proofs.Rounding
import RecordListing.Proofs.ScalarReading

namespace RecordListing

/-!
# Texts that are numbers

The texts that a numeric column takes for numbers, described by how they are spelled: blanks
around an integer of 128 bits, or around a decimal that is not too great for a binary64 number.
-/

namespace Binary64

/-! ## Decimals that are not too great -/

/-- Halfway between the greatest number and the next power of two. -/
def overflow : Nat := (2 ^ 54 - 1) * 2 ^ 970

theorem roundHalfEven_le_of_two_mul_lt {num den k : Nat} (h : 2 * num < (2 * k + 1) * den) :
    roundHalfEven num den ≤ k := by
  have hden : 0 < den := Nat.pos_of_ne_zero (by rintro rfl; simp at h)
  have hbelow : num / den < k + 1 := (Nat.div_lt_iff_lt_mul hden).mpr (by nlinarith)
  rcases (Nat.lt_succ_iff.mp hbelow).lt_or_eq with hlt | heq
  · exact (roundHalfEven_le_div_succ num den).trans hlt
  · have hrest : 2 * (num % den) < den := by
      have hsplit := Nat.div_add_mod num den
      rw [heq] at hsplit
      nlinarith
    simp [roundHalfEven, heq, hrest]

/-- A half behind an odd number is rounded up. -/
theorem roundHalfEven_half {k half : Nat} (hodd : k % 2 = 1) (hhalf : 0 < half) :
    roundHalfEven ((2 * k + 1) * half) (2 * half) = k + 1 := by
  have hsplit : (2 * k + 1) * half = half + k * (2 * half) := by ring
  have hquot : (half + k * (2 * half)) / (2 * half) = k := by
    rw [Nat.add_mul_div_right _ _ (by omega), Nat.div_eq_of_lt (by omega), Nat.zero_add]
  have hrest : (half + k * (2 * half)) % (2 * half) = half := by
    rw [Nat.add_mul_mod_self_right, Nat.mod_eq_of_lt (by omega)]
  simp [roundHalfEven, hsplit, hquot, hrest, hodd]

/-- The bound in units. -/
theorem overflow_units (den : Nat) :
    overflow * den * 2 ^ 1074 = (2 * (2 ^ 53 - 1) + 1) * (den * 2 ^ 2044) := by
  rw [overflow, show 2044 = 970 + 1074 from rfl, pow_add 2 970]
  generalize 2 ^ 970 = a
  generalize 2 ^ 1074 = b
  ring

theorem two_mul_overflow_units (den : Nat) : den * 2 ^ 2045 = 2 * (den * 2 ^ 2044) := by
  rw [show 2045 = 2044 + 1 from rfl, pow_succ 2 2044, ← mul_assoc, mul_comm]

theorem log2_odd_mul (p : Nat) : Nat.log2 ((2 * (2 ^ 53 - 1) + 1) * 2 ^ p) = 53 + p := by
  have hpos : 0 < 2 ^ p := Nat.two_pow_pos p
  rw [Nat.log2_eq_iff (by positivity), pow_succ 2 (53 + p), pow_add 2 53 p]
  omega

theorem dropped_overflow {den : Nat} (hden : 0 < den) :
    dropped ((2 * (2 ^ 53 - 1) + 1) * (den * 2 ^ 2044)) den = 2045 := by
  rw [dropped, mul_left_comm, Nat.mul_div_cancel_left _ hden, log2_odd_mul]

theorem scaledOrdinal_overflow {den : Nat} (hden : 0 < den) :
    scaledOrdinal ((2 * (2 ^ 53 - 1) + 1) * (den * 2 ^ 2044)) den = 0x7FF * 2 ^ 52 := by
  rw [scaledOrdinal_eq, dropped_overflow hden, two_mul_overflow_units,
    roundHalfEven_half (by norm_num) (by positivity)]
  norm_num

theorem scaledOrdinal_lt_iff {n den : Nat} (hden : 0 < den) :
    scaledOrdinal n den < 0x7FF * 2 ^ 52 ↔ n < (2 * (2 ^ 53 - 1) + 1) * (den * 2 ^ 2044) := by
  constructor
  · intro hlt
    by_contra hge
    have hmono := scaledOrdinal_mono hden (not_lt.mp hge)
    rw [scaledOrdinal_overflow hden] at hmono
    omega
  · intro hlt
    have hdropped : dropped n den ≤ 2045 := dropped_overflow hden ▸ dropped_mono den hlt.le
    rw [scaledOrdinal_eq]
    rcases hdropped.lt_or_eq with hbelow | htop
    · have hround : roundHalfEven n (den * 2 ^ dropped n den) ≤ 2 ^ 53 :=
        roundHalfEven_le_of_le_mul (by positivity) (lt_of_dropped n hden).le
      omega
    · have hround : roundHalfEven n (den * 2 ^ 2045) ≤ 2 ^ 53 - 1 := by
        apply roundHalfEven_le_of_two_mul_lt
        rw [two_mul_overflow_units]
        generalize den * 2 ^ 2044 = half at hlt ⊢
        omega
      rw [htop]
      omega

/-- A quotient rounds to a finite number exactly below the bound. -/
theorem ofRatio?_isSome_iff {negative : Bool} {num den : Nat} (hden : 0 < den) :
    (ofRatio? negative num den).isSome ↔ num < overflow * den := by
  have hfinite : (ofRatio? negative num den).isSome ↔ nearestOrdinal num den < 0x7FF * binade := by
    by_cases h : nearestOrdinal num den < 0x7FF * binade
    · simp [ofRatio?_of_lt h, h]
    · simp [ofRatio?_of_not_lt h, h]
  rw [hfinite, nearestOrdinal, Nat.shiftLeft_eq, binade_eq, scaledOrdinal_lt_iff hden,
    ← overflow_units, Nat.mul_lt_mul_right (by positivity)]

/-! ## Decimals -/

theorem lt_pow_digitCount (n : Nat) : n < 10 ^ digitCount n :=
  (Nat.length_toDigits_le_iff (by decide) (Nat.length_toDigits_pos)).mp le_rfl

theorem pow_digitCount_le {n : Nat} (hn : 0 < n) : 10 ^ (digitCount n - 1) ≤ n := by
  by_contra hlt
  have hpos : 0 < digitCount n := Nat.length_toDigits_pos
  rcases Nat.eq_zero_or_pos (digitCount n - 1) with hone | hmore
  · simp [hone] at hlt
    omega
  · have hle : digitCount n ≤ digitCount n - 1 :=
      (Nat.length_toDigits_le_iff (by decide) hmore).mpr (not_le.mp hlt)
    omega

/-- The value of a decimal. -/
def Decimal.value (d : Decimal) : ℚ := d.digits * (10 : ℚ) ^ d.exponent

theorem Decimal.value_lt (d : Decimal) : d.value < 10 ^ (d.exponent + digitCount d.digits) := by
  have hlt : (d.digits : ℚ) < 10 ^ digitCount d.digits := by exact_mod_cast lt_pow_digitCount _
  rw [value, zpow_add₀ (by norm_num), zpow_natCast, mul_comm]
  exact mul_lt_mul_of_pos_left hlt (by positivity)

theorem Decimal.le_value {d : Decimal} (h : d.digits ≠ 0) :
    10 ^ (d.exponent + digitCount d.digits - 1) ≤ d.value := by
  have hpos : 1 ≤ digitCount d.digits := Nat.length_toDigits_pos
  have hle : (10 : ℚ) ^ (digitCount d.digits - 1) ≤ d.digits := by
    exact_mod_cast pow_digitCount_le (Nat.pos_of_ne_zero h)
  have hexponent : d.exponent + digitCount d.digits - 1 =
      d.exponent + (digitCount d.digits - 1 : Nat) := by
    omega
  rw [value, hexponent, zpow_add₀ (by norm_num), zpow_natCast, mul_comm]
  exact mul_le_mul_of_nonneg_right hle (by positivity)

/-- As a quotient of naturals. -/
theorem Decimal.value_mul (d : Decimal) :
    d.value * (10 ^ (-d.exponent).toNat : Nat) = (d.digits * 10 ^ d.exponent.toNat : Nat) := by
  have hexponent : d.exponent + (-d.exponent).toNat = d.exponent.toNat := by omega
  push_cast
  rw [value, mul_assoc, ← zpow_natCast, ← zpow_natCast, ← zpow_add₀ (by norm_num), hexponent]

theorem overflow_between : (1 : ℚ) ≤ overflow ∧ (overflow : ℚ) ≤ 10 ^ (400 : ℤ) := by
  have hbounds : 1 ≤ overflow ∧ overflow ≤ 10 ^ 400 := by decide +kernel
  rw [show (400 : ℤ) = (400 : Nat) from rfl, zpow_natCast]
  exact_mod_cast hbounds

/-- A decimal is read as a finite number exactly below the bound. -/
theorem ofDecimal?_isSome_iff {negative : Bool} {d : Decimal} :
    (ofDecimal? negative d).isSome ↔ d.value < overflow := by
  obtain ⟨hone, hmost⟩ := overflow_between
  unfold ofDecimal?
  dsimp only
  split
  · rename_i h
    have hlt : d.value < overflow := by
      rcases h with hzero | hsmall
      · rw [Decimal.value, hzero, Nat.cast_zero, zero_mul]
        linarith
      · calc
          d.value < 10 ^ (d.exponent + digitCount d.digits) := d.value_lt
          _ ≤ 10 ^ (0 : ℤ) := zpow_le_zpow_right₀ (by norm_num) (by omega)
          _ ≤ overflow := (zpow_zero (10 : ℚ)).trans_le hone
    exact iff_of_true rfl hlt
  rename_i h
  rw [not_or] at h
  split
  · have hle : (overflow : ℚ) ≤ d.value :=
      calc
        (overflow : ℚ) ≤ 10 ^ (400 : ℤ) := hmost
        _ ≤ 10 ^ (d.exponent + digitCount d.digits - 1) :=
          zpow_le_zpow_right₀ (by norm_num) (by omega)
        _ ≤ d.value := Decimal.le_value h.1
    exact iff_of_false Bool.false_ne_true (not_lt.mpr hle)
  · have hden : 0 < Nat.pow 10 (-d.exponent).toNat := Nat.pow_pos (by decide)
    have hden' : (0 : ℚ) < (10 ^ (-d.exponent).toNat : Nat) := by exact_mod_cast hden
    rw [ofRatio?_isSome_iff hden, ← mul_lt_mul_iff_left₀ hden', d.value_mul]
    exact_mod_cast Iff.rfl

end Binary64
/-! ## Spellings -/

namespace Spelling

/-- The natural number that decimal digits spell. -/
def digitsValue (digits : List Char) : Nat := Nat.ofDigits 10 (digits.reverse.map digitValue)

/-- An optional sign, and whether it is a minus sign. -/
inductive Sign : List Char → Bool → Prop
  | absent : Sign [] false
  | plus : Sign ['+'] false
  | minus : Sign ['-'] true

/-- At least one digit, behind an optional sign. -/
def IsInteger (cs : List Char) (n : Int) : Prop :=
  ∃ sign negative digits, Sign sign negative ∧ cs = sign ++ digits ∧ digits ≠ [] ∧
    (∀ c ∈ digits, c.isDigit) ∧
    n = if negative then -(digitsValue digits : Int) else digitsValue digits

def IsExponent (cs : List Char) (e : Int) : Prop :=
  cs = [] ∧ e = 0 ∨ ∃ mark rest, (mark = 'e' ∨ mark = 'E') ∧ cs = mark :: rest ∧ IsInteger rest e

def IsFraction (cs digits : List Char) : Prop := cs = [] ∧ digits = [] ∨ cs = '.' :: digits

/-- Digits with an optional fraction, one digit at least, and an optional exponent. -/
def IsMagnitude (cs : List Char) (x : ℚ) : Prop :=
  ∃ whole point fraction tail e, cs = whole ++ (point ++ tail) ∧
    (∀ c ∈ whole ++ fraction, c.isDigit) ∧ whole ++ fraction ≠ [] ∧
    IsFraction point fraction ∧ IsExponent tail e ∧
    x = digitsValue (whole ++ fraction) * (10 : ℚ) ^ (e - fraction.length)

/-- A magnitude behind an optional sign. -/
def IsDecimal (cs : List Char) (x : ℚ) : Prop :=
  ∃ sign negative body magnitude, Sign sign negative ∧ cs = sign ++ body ∧
    IsMagnitude body magnitude ∧ x = if negative then -magnitude else magnitude

/-- A text that is `cs` with blanks around it. -/
def Surrounds (s : String) (cs : List Char) : Prop :=
  ∃ before after, s.toList = before ++ (cs ++ after) ∧ ∀ c ∈ before ++ after, Text.isBlank c

end Spelling

open Spelling

theorem naturalOf_eq_digitsValue (digits : List Char) : naturalOf digits = digitsValue digits := by
  have hfold : ∀ n, digits.foldl (fun n c => 10 * n + digitValue c) n =
      n * 10 ^ digits.length + digitsValue digits := by
    unfold digitsValue
    induction digits with
    | nil => simp
    | cons c cs ih =>
        intro n
        rw [List.foldl_cons, ih, List.reverse_cons, List.map_append, Nat.ofDigits_append]
        simp only [List.map_cons, List.map_nil, Nat.ofDigits_singleton, List.length_cons,
          List.length_map, List.length_reverse]
        ring
  simpa [naturalOf] using hfold 0

theorem takeSign_append {sign : List Char} {negative : Bool} (h : Sign sign negative)
    {rest : List Char} (hrest : ∀ c ∈ rest.head?, c ≠ '+' ∧ c ≠ '-') :
    takeSign (sign ++ rest) = (negative, rest) := by
  cases h with
  | plus => rfl
  | minus => rfl
  | absent =>
      rw [List.nil_append]
      unfold takeSign
      split
      · exact absurd rfl (hrest '-' rfl).2
      · exact absurd rfl (hrest '+' rfl).1
      · rfl

theorem exists_sign (cs : List Char) :
    ∃ sign, Sign sign (takeSign cs).1 ∧ cs = sign ++ (takeSign cs).2 := by
  obtain ⟨sign, hcs, hsign⟩ := takeSign_eq cs
  refine ⟨sign, ?_, hcs⟩
  rcases hsign with ⟨rfl, h⟩ | ⟨rfl, h⟩ | ⟨rfl, h⟩ <;> rw [h]
  · exact .absent
  · exact .plus
  · exact .minus

theorem not_sign_of_digit {digits : List Char} (h : ∀ c ∈ digits, c.isDigit) :
    ∀ c ∈ digits.head?, c ≠ '+' ∧ c ≠ '-' := by
  intro c hc
  have hdigit := h c (List.mem_of_mem_head? hc)
  constructor <;> rintro rfl <;> exact absurd hdigit (by decide)

theorem isInteger_iff {cs : List Char} {n : Int} :
    IsInteger cs n ↔ (takeSign cs).2 ≠ [] ∧ (∀ c ∈ (takeSign cs).2, c.isDigit) ∧
      n = if (takeSign cs).1 then -(naturalOf (takeSign cs).2 : Int)
        else naturalOf (takeSign cs).2 := by
  simp only [naturalOf_eq_digitsValue]
  constructor
  · rintro ⟨sign, negative, digits, hsign, rfl, hne, hdigits, hn⟩
    rw [takeSign_append hsign (not_sign_of_digit hdigits)]
    exact ⟨hne, hdigits, hn⟩
  · rintro ⟨hne, hdigits, hn⟩
    obtain ⟨sign, hsign, hcs⟩ := exists_sign cs
    exact ⟨sign, _, _, hsign, hcs, hne, hdigits, hn⟩

theorem integerOf?_eq_some {low high n : Int} {cs : List Char} :
    integerOf? low high cs = some n ↔ IsInteger cs n ∧ low ≤ n ∧ n ≤ high := by
  rw [integerOf?_eq_some_iff, isInteger_iff]
  tauto

namespace Binary64.Extended

theorem exponentOf?_eq_some_iff {cs : List Char} {e : Int} :
    exponentOf? cs = some e ↔ IsExponent cs e := by
  cases cs with
  | nil => simp [exponentOf?, IsExponent, eq_comm]
  | cons c cs =>
      have hexponent : IsExponent (c :: cs) e ↔ (c = 'e' ∨ c = 'E') ∧ IsInteger cs e := by
        constructor
        · rintro (⟨hnil, -⟩ | ⟨mark, rest, hmark, hcons, hinteger⟩)
          · cases hnil
          · cases hcons
            exact ⟨hmark, hinteger⟩
        · rintro ⟨hmark, hinteger⟩
          exact .inr ⟨c, cs, hmark, rfl, hinteger⟩
      rw [hexponent, isInteger_iff, exponentOf?]
      by_cases hmark : c = 'e' ∨ c = 'E'
      · by_cases hdigits : ((takeSign cs).2.isEmpty || !(takeSign cs).2.all Char.isDigit) = true
        · simp only [hmark, hdigits, ↓reduceIte]
          simp at hdigits
          grind
        · simp only [hmark, hdigits, ↓reduceIte]
          simp at hdigits
          grind
      · simp [hmark]

theorem takeWhile_digits {digits rest : List Char} (hdigits : ∀ c ∈ digits, c.isDigit)
    (hrest : ∀ c ∈ rest.head?, c.isDigit = false) :
    (digits ++ rest).takeWhile Char.isDigit = digits ∧
      (digits ++ rest).dropWhile Char.isDigit = rest := by
  rw [List.takeWhile_append_of_pos hdigits, List.dropWhile_append_of_pos hdigits]
  cases rest with
  | nil => simp
  | cons c rest => simp [hrest c rfl]

theorem head_of_isExponent {cs : List Char} {e : Int} (h : IsExponent cs e) :
    ∀ c ∈ cs.head?, c.isDigit = false ∧ c ≠ '.' := by
  rcases h with ⟨rfl, -⟩ | ⟨mark, rest, hmark, rfl, -⟩
  · exact fun _ hc => nomatch hc
  · rintro c ⟨⟩
    rcases hmark with rfl | rfl <;> decide

theorem decimalOf?_eq_some_iff {cs : List Char} {d : Decimal} :
    decimalOf? cs = some d ↔ ∃ whole point fraction tail e, cs = whole ++ (point ++ tail) ∧
      (∀ c ∈ whole ++ fraction, c.isDigit) ∧ whole ++ fraction ≠ [] ∧
      IsFraction point fraction ∧ IsExponent tail e ∧
      d = ⟨naturalOf (whole ++ fraction), e - fraction.length⟩ := by
  constructor
  · intro h
    have hcs := List.takeWhile_append_dropWhile (p := Char.isDigit) (l := cs)
    have hwhole : ∀ c ∈ cs.takeWhile Char.isDigit, c.isDigit :=
      fun _ hc => List.mem_takeWhile_imp hc
    unfold decimalOf? at h
    dsimp only at h
    generalize cs.takeWhile Char.isDigit = whole at *
    generalize cs.dropWhile Char.isDigit = rest at *
    split at h
    · rename_i more
      have hmore := List.takeWhile_append_dropWhile (p := Char.isDigit) (l := more)
      have hfraction : ∀ c ∈ more.takeWhile Char.isDigit, c.isDigit :=
        fun _ hc => List.mem_takeWhile_imp hc
      split at h
      · cases h
      rename_i hne
      obtain ⟨e, he, rfl⟩ := Option.map_eq_some_iff.mp h
      refine ⟨whole, '.' :: more.takeWhile Char.isDigit, more.takeWhile Char.isDigit,
        more.dropWhile Char.isDigit, e, ?_, ?_, ?_, .inr rfl, exponentOf?_eq_some_iff.mp he, rfl⟩
      · rw [List.cons_append, hmore, hcs]
      · exact List.forall_mem_append.mpr ⟨hwhole, hfraction⟩
      · simpa [-List.takeWhile_eq_nil_iff] using hne
    · split at h
      · cases h
      rename_i hne
      obtain ⟨e, he, rfl⟩ := Option.map_eq_some_iff.mp h
      refine ⟨whole, [], [], rest, e, hcs.symm, ?_, ?_, .inl ⟨rfl, rfl⟩,
        exponentOf?_eq_some_iff.mp he, ?_⟩
      · simpa using hwhole
      · simpa using hne
      · simp
  · rintro ⟨whole, point, fraction, tail, e, rfl, hdigits, hne, hpoint, htail, rfl⟩
    rw [List.forall_mem_append] at hdigits
    have hexponent := exponentOf?_eq_some_iff.mpr htail
    have hdot : ∀ c ∈ tail.head?, c ≠ '.' := fun c hc => (head_of_isExponent htail c hc).2
    have hend : ∀ c ∈ tail.head?, c.isDigit = false :=
      fun c hc => (head_of_isExponent htail c hc).1
    unfold decimalOf?
    dsimp only
    rcases hpoint with ⟨rfl, rfl⟩ | rfl
    · obtain ⟨htake, hdrop⟩ := takeWhile_digits hdigits.1 hend
      rw [List.nil_append, htake, hdrop]
      split
      · exact absurd rfl (hdot '.' rfl)
      · simp_all
    · have hpoint : ∀ c ∈ ('.' :: fraction ++ tail).head?, c.isDigit = false := by
        rintro c ⟨⟩
        decide
      obtain ⟨htake, hdrop⟩ := takeWhile_digits hdigits.1 hpoint
      obtain ⟨htake', hdrop'⟩ := takeWhile_digits hdigits.2 hend
      rw [htake, hdrop]
      simp only [List.cons_append, htake', hdrop', hexponent]
      simp_all

theorem isMagnitude_iff {cs : List Char} {x : ℚ} :
    IsMagnitude cs x ↔ ∃ d, decimalOf? cs = some d ∧ d.value = x := by
  simp only [decimalOf?_eq_some_iff]
  constructor
  · rintro ⟨whole, point, fraction, tail, e, hcs, hdigits, hne, hpoint, htail, rfl⟩
    refine ⟨_, ⟨whole, point, fraction, tail, e, hcs, hdigits, hne, hpoint, htail, rfl⟩, ?_⟩
    rw [Decimal.value, naturalOf_eq_digitsValue]
  · rintro ⟨d, ⟨whole, point, fraction, tail, e, hcs, hdigits, hne, hpoint, htail, rfl⟩, rfl⟩
    refine ⟨whole, point, fraction, tail, e, hcs, hdigits, hne, hpoint, htail, ?_⟩
    rw [Decimal.value, naturalOf_eq_digitsValue]

theorem head_of_isMagnitude {cs : List Char} {x : ℚ} (h : IsMagnitude cs x) :
    ∀ c ∈ cs.head?, c ≠ '+' ∧ c ≠ '-' := by
  obtain ⟨whole, point, fraction, tail, e, rfl, hdigits, hne, hpoint, -⟩ := h
  rw [List.forall_mem_append] at hdigits
  cases whole with
  | cons c whole => exact fun d hd => not_sign_of_digit hdigits.1 d hd
  | nil =>
      rcases hpoint with ⟨-, rfl⟩ | rfl
      · exact absurd rfl hne
      · rintro c ⟨⟩
        decide

theorem abs_signed_value (negative : Bool) (d : Decimal) :
    |if negative = true then -d.value else d.value| = d.value := by
  have hnonneg : 0 ≤ d.value := mul_nonneg (Nat.cast_nonneg _) (zpow_nonneg (by norm_num) _)
  split
  · rw [abs_neg, abs_of_nonneg hnonneg]
  · rw [abs_of_nonneg hnonneg]

/-- A decimal has no letter n, so it is none of the words for what is not finite. -/
theorem not_word_of_decimalOf? {cs : List Char} {d : Decimal} (h : decimalOf? cs = some d)
    {word : String} (hword : 'n' ∈ word.toList) : String.ofList (cs.map Char.toLower) ≠ word := by
  rintro rfl
  rw [String.toList_ofList, List.mem_map] at hword
  obtain ⟨c, hc, hlower⟩ := hword
  have hchar := forall_mem_of_decimalOf? h c hc
  simp only [isNumeralChar, Bool.or_eq_true, List.mem_cons, List.not_mem_nil, or_false,
    decide_eq_true_eq] at hchar
  rcases hchar with hdigit | rfl | rfl | rfl | rfl | rfl
  · have hself : c.toLower = c := by
      apply Char.toLower_eq_of_not_isUpper
      intro hupper
      simp [Char.isDigit, Char.isUpper] at hdigit hupper
      grind
    rw [hself] at hlower
    subst hlower
    exact absurd hdigit (by decide)
  all_goals exact absurd hlower (by decide)

/-- The texts that read as finite numbers. -/
theorem ofText?_eq_finite_iff {cs : List Char} :
    (∃ y, ofText? cs = some (.finite y)) ↔ ∃ x, IsDecimal cs x ∧ |x| < overflow := by
  constructor
  · rintro ⟨y, hy⟩
    obtain ⟨sign, hsign, hcs⟩ := exists_sign cs
    unfold ofText? at hy
    dsimp only at hy
    split at hy
    · cases hy
    split at hy
    · cases hy
    obtain ⟨d, hd, hfinite⟩ := Option.map_eq_some_iff.mp hy
    have hsome : (ofDecimal? (takeSign cs).1 d).isSome := by
      cases hdecimal : ofDecimal? (takeSign cs).1 d with
      | none => simp [hdecimal] at hfinite
      | some z => rfl
    refine ⟨_, ⟨sign, _, _, d.value, hsign, hcs, isMagnitude_iff.mpr ⟨d, hd, rfl⟩, rfl⟩, ?_⟩
    rw [abs_signed_value]
    exact ofDecimal?_isSome_iff.mp hsome
  · rintro ⟨x, ⟨sign, negative, body, magnitude, hsign, rfl, hbody, rfl⟩, hlt⟩
    obtain ⟨d, hd, rfl⟩ := isMagnitude_iff.mp hbody
    rw [abs_signed_value] at hlt
    have hsome : (ofDecimal? negative d).isSome := ofDecimal?_isSome_iff.mpr hlt
    obtain ⟨y, hy⟩ := Option.isSome_iff_exists.mp hsome
    refine ⟨y, ?_⟩
    unfold ofText?
    simp only [takeSign_append hsign (head_of_isMagnitude hbody)]
    rw [if_neg, if_neg]
    · simp [hd, hy]
    · exact not_word_of_decimalOf? hd (by decide)
    · rw [not_or]
      exact ⟨not_word_of_decimalOf? hd (by decide), not_word_of_decimalOf? hd (by decide)⟩

end Binary64.Extended

/-! ## Blanks around a number -/

theorem not_blank_of_isNumeralChar {c : Char} (h : isNumeralChar c) : Text.isBlank c = false := by
  simp only [isNumeralChar, Bool.or_eq_true, List.mem_cons, List.not_mem_nil, or_false,
    decide_eq_true_eq] at h
  rcases h with hdigit | rfl | rfl | rfl | rfl | rfl
  · have hrange : 48 ≤ c.toNat ∧ c.toNat ≤ 57 := Char.isDigit_iff_toNat.mp hdigit
    simp [Text.isBlank]
    omega
  all_goals decide

theorem Text.surrounds_trim (s : String) : Surrounds s (Text.trim s).toList := by
  have hleft := List.takeWhile_append_dropWhile (p := Text.isBlank) (l := s.toList)
  have hright := List.takeWhile_append_dropWhile (p := Text.isBlank)
    (l := (Text.trimLeft s.toList).reverse)
  refine ⟨s.toList.takeWhile Text.isBlank,
    ((Text.trimLeft s.toList).reverse.takeWhile Text.isBlank).reverse, ?_, ?_⟩
  · rw [Text.trim, String.toList_ofList, Text.trimRight, ← List.reverse_append, hright,
      List.reverse_reverse, Text.trimLeft, hleft]
  · rw [List.forall_mem_append]
    refine ⟨fun _ hc => List.mem_takeWhile_imp hc, fun _ hc => ?_⟩
    exact List.mem_takeWhile_imp (List.mem_reverse.mp hc)

theorem Text.dropWhile_blank {before cs : List Char} (hbefore : ∀ c ∈ before, Text.isBlank c)
    (hcs : ∀ c ∈ cs.head?, Text.isBlank c = false) :
    (before ++ cs).dropWhile Text.isBlank = cs := by
  rw [List.dropWhile_append_of_pos hbefore]
  cases cs with
  | nil => rfl
  | cons c cs => simp [hcs c rfl]

theorem Text.trim_of_surrounds {s : String} {cs : List Char} (h : Surrounds s cs)
    (hne : cs ≠ []) (hcs : ∀ c ∈ cs, Text.isBlank c = false) : (Text.trim s).toList = cs := by
  obtain ⟨before, after, hs, hblank⟩ := h
  rw [List.forall_mem_append] at hblank
  have hleft : Text.trimLeft s.toList = cs ++ after := by
    rw [hs, Text.trimLeft, Text.dropWhile_blank hblank.1]
    intro c hc
    obtain ⟨d, ds, rfl⟩ := List.exists_cons_of_ne_nil hne
    exact hcs c (by simp_all)
  have hright : (after.reverse ++ cs.reverse).dropWhile Text.isBlank = cs.reverse := by
    apply Text.dropWhile_blank
    · simpa using hblank.2
    · intro c hc
      exact hcs c (List.mem_reverse.mp (List.mem_of_mem_head? hc))
  rw [Text.trim, String.toList_ofList, hleft, Text.trimRight, List.reverse_append, hright,
    List.reverse_reverse]

theorem isNumeral_of_isDecimal {cs : List Char} {x : ℚ} (h : IsDecimal cs x) :
    cs ≠ [] ∧ ∀ c ∈ cs, isNumeralChar c := by
  obtain ⟨sign, negative, body, magnitude, hsign, rfl, hbody, -⟩ := h
  obtain ⟨d, hd, -⟩ := Binary64.Extended.isMagnitude_iff.mp hbody
  have hne : body ≠ [] := by
    rintro rfl
    cases hd
  refine ⟨by simp [hne], forall_mem_of_takeSign ?_⟩
  rw [takeSign_append hsign (Binary64.Extended.head_of_isMagnitude hbody)]
  exact forall_mem_of_decimalOf? hd

/-- An integer is a decimal without a fraction and an exponent. -/
theorem Spelling.IsInteger.isDecimal {cs : List Char} {n : Int} (h : IsInteger cs n) :
    IsDecimal cs n := by
  obtain ⟨sign, negative, digits, hsign, rfl, hne, hdigits, rfl⟩ := h
  refine ⟨sign, negative, digits, digitsValue digits, hsign, rfl, ?_, ?_⟩
  · exact ⟨digits, [], [], [], 0, by simp, by simpa using hdigits, by simpa using hne,
      .inl ⟨rfl, rfl⟩, .inl ⟨rfl, rfl⟩, by simp⟩
  · split <;> simp

/-- Blanks around a decimal below the bound of binary64 numbers. -/
def Spelling.IsNumber (s : String) : Prop :=
  ∃ cs x, Surrounds s cs ∧ IsDecimal cs x ∧ |x| < Binary64.overflow

/-- Blanks around an integer of 128 bits. -/
def Spelling.IsInteger128 (s : String) (n : Int) : Prop :=
  ∃ cs, Surrounds s cs ∧ IsInteger cs n ∧ -2 ^ 127 ≤ n ∧ n < 2 ^ 127

theorem Spelling.IsInteger128.isNumber {s : String} {n : Int} (h : IsInteger128 s n) :
    IsNumber s := by
  obtain ⟨cs, hs, hinteger, hlow, hhigh⟩ := h
  refine ⟨cs, n, hs, hinteger.isDecimal, ?_⟩
  have hbound : (2 ^ 127 : Int) < Binary64.overflow := by decide +kernel
  have habs : |n| < (Binary64.overflow : Int) := by
    rw [abs_lt]
    constructor <;> omega
  exact_mod_cast habs

namespace Number

theorem ofText?_of_isInteger128 {s : String} {n : Int} (h : IsInteger128 s n) :
    ofText? s = some (.int n) := by
  obtain ⟨cs, hs, hinteger, hlow, hhigh⟩ := h
  obtain ⟨hne, hchars⟩ := isNumeral_of_isDecimal hinteger.isDecimal
  have htrim := Text.trim_of_surrounds hs hne fun c hc => not_blank_of_isNumeralChar (hchars c hc)
  have hread := integerOf?_eq_some.mpr ⟨hinteger,
    show -0x8000_0000_0000_0000_0000_0000_0000_0000 ≤ n by norm_num at hlow ⊢; exact hlow,
    show n ≤ 0x7FFF_FFFF_FFFF_FFFF_FFFF_FFFF_FFFF_FFFF by norm_num at hhigh ⊢; omega⟩
  simp only [ofText?, htrim, hread]

theorem isNumber_iff {s : String} :
    IsNumber s ↔ ∃ y, Binary64.Extended.ofText? (Text.trim s).toList = some (.finite y) := by
  rw [Binary64.Extended.ofText?_eq_finite_iff]
  constructor
  · rintro ⟨cs, x, hs, hdecimal, hlt⟩
    obtain ⟨hne, hchars⟩ := isNumeral_of_isDecimal hdecimal
    rw [Text.trim_of_surrounds hs hne fun c hc => not_blank_of_isNumeralChar (hchars c hc)]
    exact ⟨x, hdecimal, hlt⟩
  · rintro ⟨x, hdecimal, hlt⟩
    exact ⟨_, x, Text.surrounds_trim s, hdecimal, hlt⟩

/-- A text is taken for no number exactly if it spells none. -/
theorem ofText?_eq_none_iff {s : String} : ofText? s = none ↔ ¬ IsNumber s := by
  unfold ofText?
  dsimp only
  cases hinteger : integerOf? (-0x8000_0000_0000_0000_0000_0000_0000_0000)
      0x7FFF_FFFF_FFFF_FFFF_FFFF_FFFF_FFFF_FFFF (Text.trim s).toList with
  | some n =>
      obtain ⟨hspelled, hlow, hhigh⟩ := integerOf?_eq_some.mp hinteger
      have hnumber : IsInteger128 s n :=
        ⟨_, Text.surrounds_trim s, hspelled, by norm_num; omega, by norm_num; omega⟩
      simp [hnumber.isNumber]
  | none =>
      rw [isNumber_iff]
      cases hfloat : Binary64.Extended.ofText? (Text.trim s).toList with
      | none => simp
      | some y => cases y <;> simp

end Number

end RecordListing
