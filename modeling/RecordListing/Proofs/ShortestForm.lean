import Mathlib
import RecordListing.Binary64.Notation
import RecordListing.Proofs.NumberTexts

namespace RecordListing.Binary64

/-!
# Shortest decimals

The shortest decimal of a magnitude lies where it reads back as that magnitude: among
seventeen digits there is always one that does. No decimal reads back as two magnitudes,
so in every notation a text is written for one number only.
-/

/-! ## Steps between magnitudes -/

/-- Within a binade the magnitudes are multiples of a power of two. -/
theorem units_place {p m : Nat} (hm : m ≤ 2 ^ 53) (hp : p = 0 ∨ 2 ^ 52 ≤ m) :
    units (p * 2 ^ 52 + m) = m * 2 ^ p := by
  rw [units_eq]
  by_cases hsmall : p * 2 ^ 52 + m < 2 ^ 53
  · obtain rfl : p = 0 := by omega
    rw [if_pos hsmall]
    ring
  rw [if_neg hsmall]
  rcases hm.lt_or_eq with hlt | rfl
  · have hquot : (p * 2 ^ 52 + m) / 2 ^ 52 - 1 = p := by omega
    have hrest : 2 ^ 52 + (p * 2 ^ 52 + m) % 2 ^ 52 = m := by omega
    rw [hquot, hrest]
  · -- The last place of a binade is the first of the next one.
    have hquot : (p * 2 ^ 52 + 2 ^ 53) / 2 ^ 52 - 1 = p + 1 := by omega
    have hrest : 2 ^ 52 + (p * 2 ^ 52 + 2 ^ 53) % 2 ^ 52 = 2 ^ 52 := by omega
    rw [hquot, hrest, pow_succ 2 p]
    ring

theorem exists_place (o : Nat) :
    ∃ p m, o = p * 2 ^ 52 + m ∧ m < 2 ^ 53 ∧ (p = 0 ∨ 2 ^ 52 ≤ m) := by
  by_cases hsmall : o < 2 ^ 53
  · exact ⟨0, o, by omega, hsmall, .inl rfl⟩
  · exact ⟨o / 2 ^ 52 - 1, o % 2 ^ 52 + 2 ^ 52, by omega, by omega, .inr (by omega)⟩

/-- The step to the next magnitude is not small beside it. -/
theorem units_succ (o : Nat) :
    ∃ step, 0 < step ∧ units (o + 1) = units o + step ∧ units (o + 1) ≤ 2 ^ 53 * step := by
  obtain ⟨p, m, rfl, hm, hp⟩ := exists_place o
  have hnext := units_place (p := p) (m := m + 1) hm (hp.imp_right fun h => by omega)
  refine ⟨2 ^ p, Nat.two_pow_pos p, ?_, ?_⟩
  · rw [add_assoc, hnext, units_place hm.le hp]
    ring
  · rw [add_assoc, hnext]
    exact Nat.mul_le_mul_right _ hm

theorem units_strictMono : StrictMono units := by
  refine strictMono_nat_of_lt_succ fun o => ?_
  obtain ⟨step, hstep, hnext, -⟩ := units_succ o
  omega

/-- A magnitude is rounded to itself. -/
theorem scaledOrdinal_units (o : Nat) : scaledOrdinal (units o) 1 = o := by
  apply units_strictMono.injective
  obtain ⟨p, m, rfl, hm, hp⟩ := exists_place o
  rw [units_place hm.le hp, ← Nat.shiftLeft_eq]
  exact units_scaledOrdinal_shiftLeft p hm.le

/-! ## Where a decimal reads back -/

/-- How many half units there are to one. -/
def halves : ℚ := 2 ^ 1075

theorem cast_halves : ((1 <<< 1075 : Nat) : ℚ) = halves := by
  unfold halves
  generalize 1075 = k
  rw [Nat.shiftLeft_eq]
  push_cast
  ring

/-- Magnitude `o` is the nearest to `x`, which lies between the midpoints to its
neighbours. The midpoints belong to even places. -/
def Nearest (o : Nat) (x : ℚ) : Prop :=
  if o % 2 = 0 then
    (units (o - 1) + units o : ℚ) ≤ halves * x ∧ halves * x ≤ (units o + units (o + 1) : ℚ)
  else (units (o - 1) + units o : ℚ) < halves * x ∧ halves * x < (units o + units (o + 1) : ℚ)

theorem nearest_of_lt {o : Nat} {x : ℚ} (hlow : (units (o - 1) + units o : ℚ) < halves * x)
    (hhigh : halves * x < (units o + units (o + 1) : ℚ)) : Nearest o x := by
  unfold Nearest
  split
  · exact ⟨hlow.le, hhigh.le⟩
  · exact ⟨hlow, hhigh⟩

theorem Nearest.between {o : Nat} {x : ℚ} (h : Nearest o x) :
    (units (o - 1) + units o : ℚ) ≤ halves * x ∧ halves * x ≤ (units o + units (o + 1) : ℚ) := by
  unfold Nearest at h
  split at h
  · exact h
  · exact ⟨h.1.le, h.2.le⟩

theorem readsBack_iff {o : Nat} {d : Decimal} : readsBack o d = true ↔ Nearest o d.value := by
  have hup : (0 : ℚ) < (10 ^ (-d.exponent).toNat : Nat) := by positivity
  have hat : ((d.digits <<< 1075 * 10 ^ d.exponent.toNat : Nat) : ℚ) =
      halves * d.value * (10 ^ (-d.exponent).toNat : Nat) := by
    rw [mul_assoc, d.value_mul, ← cast_halves, Nat.shiftLeft_eq, Nat.shiftLeft_eq]
    generalize 1075 = k
    push_cast
    ring
  have hle (n : Nat) : n * 10 ^ (-d.exponent).toNat ≤ d.digits <<< 1075 * 10 ^ d.exponent.toNat ↔
      (n : ℚ) ≤ halves * d.value := by
    rw [← mul_le_mul_iff_left₀ hup, ← hat]
    exact_mod_cast Iff.rfl
  have hge (n : Nat) : d.digits <<< 1075 * 10 ^ d.exponent.toNat ≤ n * 10 ^ (-d.exponent).toNat ↔
      halves * d.value ≤ (n : ℚ) := by
    rw [← mul_le_mul_iff_left₀ hup, ← hat]
    exact_mod_cast Iff.rfl
  unfold readsBack Nearest
  dsimp only
  split
  · rw [Bool.and_eq_true, decide_eq_true_eq, decide_eq_true_eq]
    exact_mod_cast and_congr (hle _) (hge _)
  · rw [Bool.and_eq_true, decide_eq_true_eq, decide_eq_true_eq, ← not_le, ← not_le, ← not_le,
      ← not_le]
    exact_mod_cast and_congr (hge _).not (hle _).not

/-- A decimal reads back as one magnitude at most. -/
theorem Nearest.unique {o o' : Nat} {x : ℚ} (h : Nearest o x) (h' : Nearest o' x) : o = o' := by
  wlog hlt : o < o' generalizing o o'
  · rcases (not_lt.mp hlt).lt_or_eq with hgt | heq
    · exact (this h' h hgt).symm
    · exact heq.symm
  obtain ⟨-, hhigh⟩ := h.between
  obtain ⟨hlow, -⟩ := h'.between
  have hmeet : (units (o' - 1) + units o' : ℚ) ≤ (units o + units (o + 1) : ℚ) := hlow.trans hhigh
  have hmeet' : units (o' - 1) + units o' ≤ units o + units (o + 1) := by exact_mod_cast hmeet
  have hfirst : units o ≤ units (o' - 1) := units_strictMono.monotone (by omega)
  have hsecond : units (o + 1) ≤ units o' := units_strictMono.monotone (by omega)
  -- Only neighbours meet, and the midpoint belongs to the even one of them.
  obtain rfl : o + 1 = o' := units_strictMono.injective (by omega)
  have hmiddle : (units (o + 1 - 1) + units (o + 1) : ℚ) = units o + units (o + 1) := by
    rw [Nat.add_sub_cancel]
  by_cases heven : o % 2 = 0
  · rw [Nearest, if_neg (by omega), hmiddle] at h'
    exact absurd (h'.1.trans_le hhigh) (lt_irrefl _)
  · rw [Nearest, if_neg heven] at h
    exact absurd (h.2.trans_le (hmiddle ▸ hlow)) (lt_irrefl _)

/-! ## Seventeen digits -/

theorem leadingExponent_spec {num : Nat} (hnum : 0 < num) (den : Nat) :
    (10 : ℚ) ^ leadingExponent num den * den ≤ num := by
  unfold leadingExponent
  dsimp only
  generalize hk : (digitCount num : Int) - digitCount den = k
  -- One digit less than the counts say is always reached.
  have hless : (10 : ℚ) ^ (k - 1) * den ≤ num := by
    have hcount : 1 ≤ digitCount num := Nat.length_toDigits_pos
    have hden : (den : ℚ) ≤ 10 ^ digitCount den := by
      exact_mod_cast (lt_pow_digitCount den).le
    calc
      (10 : ℚ) ^ (k - 1) * den ≤ 10 ^ (k - 1) * 10 ^ digitCount den :=
        mul_le_mul_of_nonneg_left hden (by positivity)
      _ = 10 ^ (digitCount num - 1) := by
        rw [← zpow_natCast, ← zpow_natCast, ← zpow_add₀ (by norm_num)]
        congr 1
        omega
      _ ≤ num := by exact_mod_cast pow_digitCount_le hnum
  split_ifs with hnonneg hleast hleast
  · obtain ⟨n, rfl⟩ := Int.eq_ofNat_of_zero_le hnonneg
    have hle : den * 10 ^ n ≤ num := hleast
    rw [zpow_natCast, mul_comm]
    exact_mod_cast hle
  · exact hless
  · obtain ⟨n, rfl⟩ : ∃ n : Nat, k = -n := ⟨(-k).toNat, by omega⟩
    have hle : den ≤ num * 10 ^ n := by simpa using hleast
    rw [zpow_neg, zpow_natCast, inv_mul_le_iff₀ (by positivity), mul_comm]
    exact_mod_cast hle
  · exact hless

theorem Decimal.value_normal (fuel : Nat) (d : Decimal) : (d.normal fuel).value = d.value := by
  induction fuel generalizing d with
  | zero => rfl
  | succ fuel ih =>
      unfold Decimal.normal
      split
      · rename_i h
        have hsplit := Nat.div_add_mod d.digits 10
        have hdigits : (d.digits : ℚ) = 10 * (d.digits / 10 : Nat) := by
          exact_mod_cast (show d.digits = 10 * (d.digits / 10) by omega)
        rw [ih, value, value, hdigits, zpow_add_one₀ (by norm_num)]
        ring
      · rfl

/-- How many times a power of ten goes into a magnitude. -/
def gridBelow (o : Nat) (e : Int) : Nat :=
  2 * units o * Nat.pow 10 (-e).toNat / (1 <<< 1075 * Nat.pow 10 e.toNat)

theorem gridBelow_between (o : Nat) (e : Int) :
    halves * Decimal.value ⟨gridBelow o e, e⟩ ≤ 2 * units o ∧
      (2 * units o : ℚ) < halves * Decimal.value ⟨gridBelow o e + 1, e⟩ := by
  have hup : (0 : ℚ) < (10 ^ (-e).toNat : Nat) := by positivity
  have hstep : 0 < 1 <<< 1075 * 10 ^ e.toNat := by
    rw [Nat.shiftLeft_eq]
    positivity
  have hvalue (n : Nat) : halves * Decimal.value ⟨n, e⟩ * (10 ^ (-e).toNat : Nat) =
      (n * (1 <<< 1075 * 10 ^ e.toNat) : Nat) := by
    rw [mul_assoc, Decimal.value_mul, ← cast_halves]
    push_cast
    ring
  have hbelow : gridBelow o e = 2 * units o * 10 ^ (-e).toNat / (1 <<< 1075 * 10 ^ e.toNat) := rfl
  rw [hbelow]
  constructor
  · rw [← mul_le_mul_iff_left₀ hup, hvalue]
    exact_mod_cast Nat.div_mul_le_self _ _
  · rw [← mul_lt_mul_iff_left₀ hup, hvalue]
    exact_mod_cast (Nat.div_lt_iff_lt_mul hstep).mp (Nat.lt_succ_self _)

/-- A decimal that is taken from a grid reads back, and none is taken only if neither of the
two neighbours does. -/
theorem onGrid?_cases (o : Nat) (e : Int) :
    (∃ d, onGrid? o e = some d ∧ readsBack o d = true) ∨
      (onGrid? o e = none ∧ readsBack o ⟨gridBelow o e, e⟩ = false ∧
        readsBack o ⟨gridBelow o e + 1, e⟩ = false) := by
  unfold onGrid? gridBelow
  dsimp only
  generalize 2 * units o * Nat.pow 10 (-e).toNat % (1 <<< 1075 * Nat.pow 10 e.toNat) = rest
  generalize 2 * units o * Nat.pow 10 (-e).toNat / (1 <<< 1075 * Nat.pow 10 e.toNat) = below
  cases hbelow : readsBack o ⟨below, e⟩ <;> cases habove : readsBack o ⟨below + 1, e⟩
  · exact .inr ⟨rfl, rfl, rfl⟩
  · exact .inl ⟨_, rfl, habove⟩
  · exact .inl ⟨_, rfl, hbelow⟩
  · left
    dsimp only
    split_ifs
    · exact ⟨_, rfl, hbelow⟩
    · exact ⟨_, rfl, habove⟩
    · exact ⟨_, rfl, hbelow⟩
    · exact ⟨_, rfl, habove⟩

/-- A grid that is fine enough has a point that reads back. -/
theorem nearest_of_fine {o : Nat} {e : Int} {n : Nat} (ho : 0 < o)
    (hfine : 10 ^ 16 * (halves * (10 : ℚ) ^ e) ≤ 2 * units o)
    (hbelow : halves * Decimal.value ⟨n, e⟩ ≤ 2 * units o)
    (habove : (2 * units o : ℚ) < halves * Decimal.value ⟨n + 1, e⟩) :
    Nearest o (Decimal.value ⟨n, e⟩) ∨ Nearest o (Decimal.value ⟨n + 1, e⟩) := by
  obtain ⟨o, rfl⟩ := Nat.exists_eq_add_one_of_ne_zero ho.ne'
  obtain ⟨before, hbefore, hfirst, hsmall⟩ := units_succ o
  obtain ⟨behind, hbehind, hsecond, hsmall'⟩ := units_succ (o + 1)
  have hfirst' : (units (o + 1) : ℚ) = units o + before := by exact_mod_cast hfirst
  have hsecond' : (units (o + 1 + 1) : ℚ) = units (o + 1) + behind := by exact_mod_cast hsecond
  have hnext : halves * Decimal.value ⟨n + 1, e⟩ =
      halves * Decimal.value ⟨n, e⟩ + halves * (10 : ℚ) ^ e := by
    rw [Decimal.value, Decimal.value, Nat.cast_add_one]
    ring
  have hpos : (0 : ℚ) < before := by exact_mod_cast hbefore
  have hpos' : (0 : ℚ) < behind := by exact_mod_cast hbehind
  by_contra hnone
  rw [not_or] at hnone
  have hlow : halves * Decimal.value ⟨n, e⟩ ≤ (units (o + 1 - 1) + units (o + 1) : ℚ) := by
    refine not_lt.mp fun hlt => hnone.1 (nearest_of_lt hlt ?_)
    linarith
  have hhigh : (units (o + 1) + units (o + 1 + 1) : ℚ) ≤ halves * Decimal.value ⟨n + 1, e⟩ := by
    refine not_lt.mp fun hlt => hnone.2 (nearest_of_lt ?_ hlt)
    rw [Nat.add_sub_cancel]
    linarith
  -- So the grid is coarser than the two steps, each of which is a large part of the magnitude.
  rw [Nat.add_sub_cancel] at hlow
  have hcoarse : (before + behind : ℚ) ≤ halves * (10 : ℚ) ^ e := by linarith
  have hbig : (units (o + 1) : ℚ) ≤ 2 ^ 53 * before := by exact_mod_cast hsmall
  have hbig' : (units (o + 1) : ℚ) ≤ 2 ^ 53 * behind := by
    exact_mod_cast (by omega : units (o + 1) ≤ 2 ^ 53 * behind)
  linarith

theorem nearest_of_onGrid? {o : Nat} {e : Int} {d : Decimal} (h : onGrid? o e = some d) :
    Nearest o d.value := by
  rcases onGrid?_cases o e with ⟨d', hd', hreads⟩ | ⟨hnone, -⟩
  · cases hd'.symm.trans h
    exact readsBack_iff.mp hreads
  · cases hnone.symm.trans h

theorem onGrid?_ne_none {o : Nat} {e : Int} (ho : 0 < o)
    (hfine : 10 ^ 16 * (halves * (10 : ℚ) ^ e) ≤ 2 * units o) : onGrid? o e ≠ none := by
  obtain ⟨hbelow, habove⟩ := gridBelow_between o e
  rcases onGrid?_cases o e with ⟨d, hd, -⟩ | ⟨-, hneither, hneither'⟩
  · simp [hd]
  · rcases nearest_of_fine ho hfine hbelow habove with hnearest | hnearest
    · rw [readsBack_iff.mpr hnearest] at hneither
      cases hneither
    · rw [readsBack_iff.mpr hnearest] at hneither'
      cases hneither'

theorem units_zero : units 0 = 0 := rfl

theorem units_pos {o : Nat} (ho : 0 < o) : 0 < units o := units_zero ▸ units_strictMono ho

/-- The shortest decimal reads back. -/
theorem nearest_shortest (o : Nat) : Nearest o (shortest o).value := by
  unfold shortest
  split
  · rename_i hzero
    subst hzero
    rw [Nearest, if_pos rfl, Decimal.value, units_zero]
    simp
  rename_i hne
  have ho : 0 < o := Nat.pos_of_ne_zero hne
  dsimp only
  split
  · rename_i d hd
    obtain ⟨n, -, hn⟩ := List.exists_of_findSome?_eq_some hd
    rw [Decimal.value_normal]
    exact nearest_of_onGrid? hn
  · rename_i hnone
    -- At seventeen digits the grid is fine enough.
    exfalso
    refine onGrid?_ne_none ho ?_ (List.findSome?_eq_none_iff.mp hnone 16 (by simp))
    have hunits := units_pos ho
    have hlead := leadingExponent_spec (show 0 < 2 * units o by omega) (1 <<< 1075)
    rw [cast_halves] at hlead
    generalize leadingExponent (2 * units o) (1 <<< 1075) = lead at hlead ⊢
    have hgrid : (10 : ℚ) ^ lead = 10 ^ 16 * 10 ^ (lead - (16 : Nat)) := by
      rw [← zpow_natCast, ← zpow_add₀ (by norm_num)]
      congr 1
      omega
    calc
      10 ^ 16 * (halves * (10 : ℚ) ^ (lead - (16 : Nat))) = 10 ^ lead * halves := by
        rw [hgrid]
        ring
      _ ≤ 2 * units o := by exact_mod_cast hlead

theorem shortest_injective {o o' : Nat} (h : (shortest o).value = (shortest o').value) : o = o' :=
  (nearest_shortest o).unique (h ▸ nearest_shortest o')

/-! ## Written numbers -/

open Spelling

theorem digitsValue_append (ds ds' : List Char) :
    digitsValue (ds ++ ds') = digitsValue ds * 10 ^ ds'.length + digitsValue ds' := by
  rw [digitsValue, List.reverse_append, List.map_append, Nat.ofDigits_append, digitsValue,
    digitsValue]
  simp only [List.length_map, List.length_reverse]
  ring

theorem digitsValue_zeros (n : Nat) : digitsValue (zeros n) = 0 := by
  induction n with
  | zero => rfl
  | succ n ih =>
      have hsplit : zeros (n + 1) = zeros n ++ ['0'] := List.replicate_succ'
      rw [hsplit, digitsValue_append, ih]
      rfl

theorem digitsValue_zeros_append (n : Nat) (ds : List Char) :
    digitsValue (zeros n ++ ds) = digitsValue ds := by
  rw [digitsValue_append, digitsValue_zeros, zero_mul, zero_add]

theorem digitsValue_append_zeros (ds : List Char) (n : Nat) :
    digitsValue (ds ++ zeros n) = digitsValue ds * 10 ^ n := by
  rw [digitsValue_append, digitsValue_zeros, zeros, List.length_replicate, add_zero]

theorem isDigit_of_mem_zeros {n : Nat} {c : Char} (h : c ∈ zeros n) : c.isDigit := by
  rw [List.eq_of_mem_replicate h]
  rfl

theorem digitsValue_toDigits (n : Nat) : digitsValue (Nat.toDigits 10 n) = n := by
  rw [← naturalOf_eq_digitsValue, naturalOf_toDigits]

theorem isDigit_of_mem_toDigits {n : Nat} {c : Char} (h : c ∈ Nat.toDigits 10 n) : c.isDigit :=
  Nat.isDigit_of_mem_toDigits (by decide) (by decide) h

theorem isMagnitude_whole {whole : List Char} (hwhole : ∀ c ∈ whole, c.isDigit)
    (hne : whole ≠ []) : IsMagnitude whole (digitsValue whole) :=
  ⟨whole, [], [], [], 0, by simp, by simpa using hwhole, by simpa using hne, .inl ⟨rfl, rfl⟩,
    .inl ⟨rfl, rfl⟩, by simp⟩

theorem isMagnitude_pointed {whole fraction : List Char} (hwhole : ∀ c ∈ whole, c.isDigit)
    (hfraction : ∀ c ∈ fraction, c.isDigit) (hne : whole ≠ []) :
    IsMagnitude (whole ++ '.' :: fraction)
      (digitsValue (whole ++ fraction) * (10 : ℚ) ^ (-fraction.length : ℤ)) :=
  ⟨whole, '.' :: fraction, fraction, [], 0, by simp, List.forall_mem_append.mpr ⟨hwhole, hfraction⟩,
    by simp [hne], .inr rfl, .inl ⟨rfl, rfl⟩, by rw [zero_sub]⟩

theorem isInteger_signed (plus : Bool) (n : Int) :
    IsInteger ((if n < 0 then ['-'] else if plus then ['+'] else []) ++ Nat.toDigits 10 n.natAbs)
      n := by
  have hdigits : ∀ c ∈ Nat.toDigits 10 n.natAbs, c.isDigit := fun _ => isDigit_of_mem_toDigits
  by_cases hneg : n < 0
  · rw [if_pos hneg]
    refine ⟨_, _, _, .minus, rfl, Nat.toDigits_ne_nil, hdigits, ?_⟩
    rw [digitsValue_toDigits, if_pos rfl]
    omega
  · have hsign : Sign (if plus then ['+'] else []) false := by
      cases plus
      · exact .absent
      · exact .plus
    rw [if_neg hneg]
    refine ⟨_, _, _, hsign, rfl, Nat.toDigits_ne_nil, hdigits, ?_⟩
    rw [digitsValue_toDigits, if_neg Bool.false_ne_true]
    omega

section Digits

variable (style : Notation) {digits : List Char} (hdigits : ∀ c ∈ digits, c.isDigit)
  (hne : digits ≠ []) (exponent : Int)
include hdigits hne

/-- The digits stand for a fraction that begins at the leading exponent. -/
theorem isMagnitude_positionalText : IsMagnitude (positionalText style digits exponent)
    (digitsValue digits * (10 : ℚ) ^ (exponent + 1 - digits.length)) := by
  have hzeros (n : Nat) : ∀ c ∈ zeros n, c.isDigit := fun _ => isDigit_of_mem_zeros
  unfold positionalText
  dsimp only
  by_cases hneg : exponent < 0
  · rw [if_pos hneg]
    have hplaces : -((zeros (-exponent - 1).toNat ++ digits).length : Int) =
        exponent + 1 - digits.length := by
      rw [List.length_append, zeros, List.length_replicate]
      omega
    have hpointed := isMagnitude_pointed (hzeros 1)
      (List.forall_mem_append.mpr ⟨hzeros (-exponent - 1).toNat, hdigits⟩) (List.cons_ne_nil _ _)
    rwa [digitsValue_zeros_append, digitsValue_zeros_append, hplaces] at hpointed
  rw [if_neg hneg]
  by_cases hlong : digits.length ≤ exponent.toNat + 1
  · rw [if_pos hlong]
    have hwhole : ∀ c ∈ digits ++ zeros (exponent.toNat + 1 - digits.length), c.isDigit :=
      List.forall_mem_append.mpr ⟨hdigits, hzeros _⟩
    have hplaces : exponent + 1 - digits.length =
        (exponent.toNat + 1 - digits.length : Nat) := by
      omega
    rw [hplaces, zpow_natCast]
    generalize exponent.toNat + 1 - digits.length = n at hwhole ⊢
    have hvalue : (digitsValue (digits ++ zeros n) : ℚ) = digitsValue digits * 10 ^ n := by
      rw [digitsValue_append_zeros, Nat.cast_mul, Nat.cast_pow, Nat.cast_ofNat]
    rw [← hvalue]
    by_cases hpoint : style.pointZero = true
    · rw [if_pos hpoint]
      have hpointed := isMagnitude_pointed hwhole (hzeros 1) (by simp [hne])
      have hsame : (digitsValue (digits ++ zeros n ++ zeros 1) : ℚ) * 10 ^ (-(zeros 1).length : ℤ) =
          digitsValue (digits ++ zeros n) := by
        rw [digitsValue_append_zeros]
        simp [zeros]
      rwa [hsame] at hpointed
    · rw [if_neg hpoint, List.append_nil]
      exact isMagnitude_whole hwhole (by simp [hne])
  · rw [if_neg hlong]
    have hplaces : -((digits.drop (exponent.toNat + 1)).length : Int) =
        exponent + 1 - digits.length := by
      rw [List.length_drop]
      omega
    have hwhole : ∀ c ∈ digits.take (exponent.toNat + 1), c.isDigit :=
      fun c hc => hdigits c (List.mem_of_mem_take hc)
    have hfraction : ∀ c ∈ digits.drop (exponent.toNat + 1), c.isDigit :=
      fun c hc => hdigits c (List.mem_of_mem_drop hc)
    have hpointed := isMagnitude_pointed hwhole hfraction (by simpa using hne)
    rwa [List.take_append_drop, hplaces] at hpointed

theorem isMagnitude_scientificText : IsMagnitude (scientificText style digits exponent)
    (digitsValue digits * (10 : ℚ) ^ (exponent + 1 - digits.length)) := by
  have hexponent : IsExponent ('e' :: ((if exponent < 0 then ['-'] else
      if style.plusSign then ['+'] else []) ++ Nat.toDigits 10 exponent.natAbs)) exponent :=
    .inr ⟨_, _, .inl rfl, rfl, isInteger_signed style.plusSign exponent⟩
  obtain ⟨d, rest, rfl⟩ := List.exists_cons_of_ne_nil hne
  unfold scientificText
  dsimp only
  cases rest with
  | nil =>
      refine ⟨[d], [], [], _, exponent, rfl, by simpa using hdigits, by simp, .inl ⟨rfl, rfl⟩,
        hexponent, by simp⟩
  | cons d' rest =>
      refine ⟨[d], '.' :: d' :: rest, d' :: rest, _, exponent, by simp, hdigits, by simp, .inr rfl,
        hexponent, ?_⟩
      rw [List.singleton_append, List.length_cons, Nat.cast_add_one]
      congr 2
      omega

end Digits

/-- The digits of a magnitude, and the exponent of the first of them. -/
def digitsOf (o : Nat) : List Char := Nat.toDigits 10 (shortest o).digits

def leadingOf (o : Nat) : Int := (shortest o).exponent + ((digitsOf o).length - 1 : Nat)

theorem digitsOf_ne_nil (o : Nat) : digitsOf o ≠ [] := Nat.toDigits_ne_nil

theorem digitsValue_digitsOf (o : Nat) :
    (digitsValue (digitsOf o) : ℚ) * 10 ^ (leadingOf o + 1 - (digitsOf o).length) =
      (shortest o).value := by
  have hlength : (digitsOf o).length ≠ 0 := mt List.length_eq_zero_iff.mp (digitsOf_ne_nil o)
  have hexponent : leadingOf o + 1 - (digitsOf o).length = (shortest o).exponent := by
    unfold leadingOf
    omega
  rw [hexponent, digitsOf, digitsValue_toDigits, Decimal.value]

theorem Notation.write_eq (style : Notation) (x : Binary64) :
    ∃ body, style.write x = (if x.negative then ['-'] else []) ++ body ∧
      (body = positionalText style (digitsOf x.ordinal) (leadingOf x.ordinal) ∨
        body = scientificText style (digitsOf x.ordinal) (leadingOf x.ordinal)) := by
  refine ⟨_, rfl, ?_⟩
  split
  · exact .inl rfl
  · split
    · exact .inl rfl
    · exact .inr rfl

/-- A written number is a decimal of the magnitude, behind a minus sign if it is negative. -/
theorem exists_write_eq (style : Notation) (x : Binary64) :
    ∃ sign body, Sign sign x.negative ∧ style.write x = sign ++ body ∧
      IsMagnitude body (shortest x.ordinal).value := by
  have hdigits : ∀ c ∈ digitsOf x.ordinal, c.isDigit := fun _ => isDigit_of_mem_toDigits
  have hne := digitsOf_ne_nil x.ordinal
  have hsign : Sign (if x.negative then ['-'] else []) x.negative := by
    cases x.negative
    · exact .absent
    · exact .minus
  obtain ⟨body, hwrite, hbody⟩ := style.write_eq x
  refine ⟨_, body, hsign, hwrite, ?_⟩
  rw [← digitsValue_digitsOf]
  rcases hbody with rfl | rfl
  · exact isMagnitude_positionalText style hdigits hne _
  · exact isMagnitude_scientificText style hdigits hne _

theorem isMagnitude_unique {cs : List Char} {x y : ℚ} (hx : IsMagnitude cs x)
    (hy : IsMagnitude cs y) : x = y := by
  obtain ⟨d, hd, rfl⟩ := Extended.isMagnitude_iff.mp hx
  obtain ⟨d', hd', rfl⟩ := Extended.isMagnitude_iff.mp hy
  rw [Option.some.inj (hd.symm.trans hd')]

/-- No two numbers are written alike. -/
theorem Notation.write_injective (style : Notation) : Function.Injective style.write := by
  intro x y h
  obtain ⟨sign, body, hsign, hx, hbody⟩ := exists_write_eq style x
  obtain ⟨sign', body', hsign', hy, hbody'⟩ := exists_write_eq style y
  have htake : takeSign (style.write x) = (x.negative, body) :=
    hx ▸ takeSign_append hsign (Extended.head_of_isMagnitude hbody)
  have htake' : takeSign (style.write y) = (y.negative, body') :=
    hy ▸ takeSign_append hsign' (Extended.head_of_isMagnitude hbody')
  rw [h, htake', Prod.mk.injEq] at htake
  obtain ⟨hnegative, rfl⟩ := htake
  have hordinal := shortest_injective (isMagnitude_unique hbody hbody')
  cases x
  cases y
  simp_all

theorem exists_mark_write {style : Notation} (hpoint : style.pointZero = true) (x : Binary64) :
    ∃ c ∈ style.write x, c = '.' ∨ c = 'e' := by
  obtain ⟨body, hwrite, hbody⟩ := style.write_eq x
  rw [hwrite]
  rcases hbody with rfl | rfl
  · refine ⟨'.', List.mem_append_right _ ?_, .inl rfl⟩
    unfold positionalText
    dsimp only
    split_ifs <;> simp
  · refine ⟨'e', List.mem_append_right _ ?_, .inr rfl⟩
    unfold scientificText
    simp

/-- A number that keeps its `.0` is not written as an integer. -/
theorem not_isInteger_write {style : Notation} (hpoint : style.pointZero = true) (x : Binary64)
    (n : Int) : ¬ IsInteger (style.write x) n := by
  obtain ⟨c, hc, hmark⟩ := exists_mark_write hpoint x
  rintro ⟨sign, negative, digits, hsign, hwrite, -, hdigits, -⟩
  rw [hwrite, List.mem_append] at hc
  rcases hc with hc | hc
  · cases hsign with
    | absent => cases hc
    | plus => simp_all
    | minus => simp_all
  · have hdigit := hdigits c hc
    rcases hmark with rfl | rfl <;> exact absurd hdigit (by decide)

end RecordListing.Binary64
