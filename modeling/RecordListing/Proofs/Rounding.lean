import Mathlib.Algebra.Order.Ring.Nat
import Mathlib.Tactic.Positivity
import Mathlib.Tactic.Ring
import Mathlib.Tactic.SplitIfs
import RecordListing.Binary64.Basic

namespace RecordListing.Binary64

/-!
# Rounding to binary64

Rounding keeps the order of what is rounded, and an integer of magnitude up to
2^53 is rounded to itself. So integers that small compare as their rounded
numbers do, while greater ones may be rounded to one number.
-/

/-! ## Half to even -/

theorem div_le_roundHalfEven (num den : Nat) : num / den ≤ roundHalfEven num den := by
  simp only [roundHalfEven]
  split_ifs <;> omega

theorem roundHalfEven_le_div_succ (num den : Nat) : roundHalfEven num den ≤ num / den + 1 := by
  simp only [roundHalfEven]
  split_ifs <;> omega

@[simp] theorem roundHalfEven_mul_right (k : Nat) {den : Nat} (hden : 0 < den) :
    roundHalfEven (k * den) den = k := by
  simp [roundHalfEven, Nat.mul_div_cancel k hden, hden]

theorem roundHalfEven_mono {num num' : Nat} (den : Nat) (h : num ≤ num') :
    roundHalfEven num den ≤ roundHalfEven num' den := by
  have hdiv : num / den ≤ num' / den := Nat.div_le_div_right h
  rcases hdiv.lt_or_eq with hlt | heq
  · calc
      roundHalfEven num den ≤ num / den + 1 := roundHalfEven_le_div_succ num den
      _ ≤ num' / den := hlt
      _ ≤ roundHalfEven num' den := div_le_roundHalfEven num' den
  · -- With one quotient the remainders are in order, and they decide.
    have hsplit := Nat.div_add_mod num den
    have hsplit' := Nat.div_add_mod num' den
    have hmod : num % den ≤ num' % den := by
      rw [heq] at hsplit
      omega
    simp only [roundHalfEven, heq]
    split_ifs <;> omega

theorem roundHalfEven_le_of_le_mul {num den k : Nat} (hden : 0 < den) (h : num ≤ k * den) :
    roundHalfEven num den ≤ k := by
  calc
    roundHalfEven num den ≤ roundHalfEven (k * den) den := roundHalfEven_mono den h
    _ = k := roundHalfEven_mul_right k hden

theorem le_roundHalfEven_of_mul_le {num den k : Nat} (hden : 0 < den) (h : k * den ≤ num) :
    k ≤ roundHalfEven num den := by
  calc
    k = roundHalfEven (k * den) den := (roundHalfEven_mul_right k hden).symm
    _ ≤ roundHalfEven num den := roundHalfEven_mono den h

/-! ## The nearest place -/

theorem binade_eq : binade = 2 ^ 52 := rfl

theorem units_eq (o : Nat) : units o =
    if o < 2 ^ 53 then o else (2 ^ 52 + o % 2 ^ 52) * 2 ^ (o / 2 ^ 52 - 1) := by
  rw [units, Nat.shiftLeft_eq]
  rfl

theorem scaledOrdinal_eq (num den : Nat) : scaledOrdinal num den =
    dropped num den * 2 ^ 52 + roundHalfEven num (den * 2 ^ dropped num den) := by
  simp only [scaledOrdinal, binade_eq, Nat.shiftLeft_eq]

theorem dropped_mono {num num' : Nat} (den : Nat) (h : num ≤ num') :
    dropped num den ≤ dropped num' den := by
  have hdiv : num / den ≤ num' / den := Nat.div_le_div_right h
  unfold dropped
  rcases Nat.eq_zero_or_pos (num / den) with hzero | hpos
  · simp [hzero]
  · have hlog : Nat.log2 (num / den) ≤ Nat.log2 (num' / den) :=
      (Nat.le_log2 (by omega)).mpr ((Nat.log2_self_le (by omega)).trans hdiv)
    omega

theorem lt_of_dropped (num : Nat) {den : Nat} (hden : 0 < den) :
    num < 2 ^ 53 * (den * 2 ^ dropped num den) := by
  have hlog : num / den < 2 ^ (Nat.log2 (num / den) + 1) := Nat.lt_log2_self
  have hpow : 2 ^ (Nat.log2 (num / den) + 1) ≤ 2 ^ (53 + dropped num den) :=
    Nat.pow_le_pow_right (by decide) (by simp only [dropped]; omega)
  have hquot : num / den < 2 ^ 53 * 2 ^ dropped num den := by
    rw [← pow_add]
    exact hlog.trans_le hpow
  calc
    num < 2 ^ 53 * 2 ^ dropped num den * den := (Nat.div_lt_iff_lt_mul hden).mp hquot
    _ = 2 ^ 53 * (den * 2 ^ dropped num den) := by ring

theorem le_of_dropped_pos {num den : Nat} (hden : 0 < den) (h : 0 < dropped num den) :
    2 ^ 52 * (den * 2 ^ dropped num den) ≤ num := by
  have hlog : 52 + dropped num den = Nat.log2 (num / den) := by
    simp only [dropped] at h ⊢
    omega
  have hne : num / den ≠ 0 := by
    intro hzero
    simp [dropped, hzero] at h
  have hquot : 2 ^ 52 * 2 ^ dropped num den ≤ num / den := by
    rw [← pow_add, hlog]
    exact Nat.log2_self_le hne
  calc
    2 ^ 52 * (den * 2 ^ dropped num den) = 2 ^ 52 * 2 ^ dropped num den * den := by ring
    _ ≤ num := (Nat.le_div_iff_mul_le hden).mp hquot

theorem scaledOrdinal_mono {num num' den : Nat} (hden : 0 < den) (h : num ≤ num') :
    scaledOrdinal num den ≤ scaledOrdinal num' den := by
  rcases (dropped_mono den h).lt_or_eq with hlt | heq
  · -- The last place before a power of two is not above the first one behind it.
    have hbelow : roundHalfEven num (den * 2 ^ dropped num den) ≤ 2 ^ 53 :=
      roundHalfEven_le_of_le_mul (by positivity) (lt_of_dropped num hden).le
    have habove : 2 ^ 52 ≤ roundHalfEven num' (den * 2 ^ dropped num' den) :=
      le_roundHalfEven_of_mul_le (by positivity) (le_of_dropped_pos hden (by omega))
    rw [scaledOrdinal_eq, scaledOrdinal_eq]
    omega
  · rw [scaledOrdinal_eq, scaledOrdinal_eq, heq]
    exact Nat.add_le_add_left (roundHalfEven_mono _ h) _

/-- A quotient of which only zeros are rounded away is the magnitude at its place. -/
theorem units_scaledOrdinal {num den : Nat} (hden : 0 < den)
    (h : den * 2 ^ dropped num den ∣ num) : units (scaledOrdinal num den) * den = num := by
  have hlt := lt_of_dropped num hden
  have hle := @le_of_dropped_pos num den hden
  rw [scaledOrdinal_eq]
  generalize dropped num den = p at h hlt hle ⊢
  obtain ⟨k, rfl⟩ := h
  have hstep : 0 < den * 2 ^ p := by positivity
  rw [mul_comm (den * 2 ^ p) k] at hlt hle ⊢
  have hk : k < 2 ^ 53 := Nat.lt_of_mul_lt_mul_right hlt
  rw [roundHalfEven_mul_right k hstep]
  cases p with
  | zero =>
      have hplace : 0 * 2 ^ 52 + k < 2 ^ 53 := by omega
      rw [units_eq, if_pos hplace]
      ring
  | succ p =>
      have hk' : 2 ^ 52 ≤ k := Nat.le_of_mul_le_mul_right (hle (by omega)) hstep
      have hplace : ¬ (p + 1) * 2 ^ 52 + k < 2 ^ 53 := by omega
      have hquot : ((p + 1) * 2 ^ 52 + k) / 2 ^ 52 - 1 = p + 1 := by omega
      have hrest : 2 ^ 52 + ((p + 1) * 2 ^ 52 + k) % 2 ^ 52 = k := by omega
      rw [units_eq, if_neg hplace, hquot, hrest]
      ring

/-! ## Integers -/

theorem nearestOrdinal_mono {m n : Nat} (h : m ≤ n) : nearestOrdinal m 1 ≤ nearestOrdinal n 1 := by
  unfold nearestOrdinal
  rw [Nat.shiftLeft_eq, Nat.shiftLeft_eq]
  exact scaledOrdinal_mono one_pos (Nat.mul_le_mul_right _ h)

theorem dropped_mul_two_pow {n : Nat} (k : Nat) (hn : n ≠ 0) :
    dropped (n * 2 ^ k) 1 = Nat.log2 n + k - 52 := by
  have hlog : Nat.log2 (n * 2 ^ k) = Nat.log2 n + k := by
    rw [Nat.log2_eq_iff (by positivity)]
    constructor
    · rw [pow_add]
      exact Nat.mul_le_mul_right _ (Nat.log2_self_le hn)
    · rw [show Nat.log2 n + k + 1 = Nat.log2 n + 1 + k by omega, pow_add]
      exact Nat.mul_lt_mul_of_pos_right Nat.lt_log2_self (by positivity)
  rw [dropped, Nat.div_one, hlog]

theorem dropped_dvd {n : Nat} (k : Nat) (h : n ≤ 2 ^ 53) :
    1 * 2 ^ dropped (n * 2 ^ k) 1 ∣ n * 2 ^ k := by
  rw [one_mul]
  rcases Nat.eq_zero_or_pos n with rfl | hpos
  · rw [Nat.zero_mul]
    exact dvd_zero _
  rw [dropped_mul_two_pow k hpos.ne']
  rcases h.lt_or_eq with hlt | rfl
  · have hlog : Nat.log2 n < 53 := (Nat.log2_lt hpos.ne').mpr hlt
    exact (pow_dvd_pow 2 (by omega)).mul_left n
  · rw [Nat.log2_two_pow, ← pow_add]
    exact pow_dvd_pow 2 (by omega)

theorem units_scaledOrdinal_shiftLeft {n : Nat} (k : Nat) (h : n ≤ 2 ^ 53) :
    units (scaledOrdinal (n <<< k) 1) = n <<< k := by
  have hunits := units_scaledOrdinal one_pos (dropped_dvd k h)
  rwa [mul_one, ← Nat.shiftLeft_eq] at hunits

/-- The integers up to 2^53 are among the magnitudes. -/
theorem units_nearestOrdinal {n : Nat} (h : n ≤ 2 ^ 53) :
    units (nearestOrdinal n 1) = n <<< 1074 :=
  units_scaledOrdinal_shiftLeft 1074 h

theorem nearestOrdinal_strictMono {m n : Nat} (hlt : m < n) (hn : n ≤ 2 ^ 53) :
    nearestOrdinal m 1 < nearestOrdinal n 1 := by
  refine (nearestOrdinal_mono hlt.le).lt_of_ne ?_
  intro heq
  have hunits : m <<< 1074 = n <<< 1074 := by
    rw [← units_nearestOrdinal (hlt.le.trans hn), ← units_nearestOrdinal hn, heq]
  rw [Nat.shiftLeft_eq, Nat.shiftLeft_eq] at hunits
  exact hlt.ne (Nat.eq_of_mul_eq_mul_right (Nat.two_pow_pos _) hunits)

/-! ## Places of rounded integers -/

/-- The place of a magnitude once it is rounded; beyond the greatest number all
magnitudes have its place. -/
def magnitudePlace (n : Nat) : Nat := min (nearestOrdinal n 1) (0x7FF * binade - 1)

theorem ofRatio?_of_lt {negative : Bool} {num den : Nat}
    (h : nearestOrdinal num den < 0x7FF * binade) :
    ofRatio? negative num den = some ⟨negative, nearestOrdinal num den, h⟩ := by
  unfold ofRatio? ofOrdinal?
  rw [dif_pos h]

theorem ofRatio?_of_not_lt {negative : Bool} {num den : Nat}
    (h : ¬ nearestOrdinal num den < 0x7FF * binade) : ofRatio? negative num den = none := by
  unfold ofRatio? ofOrdinal?
  rw [dif_neg h]

theorem place_ofInt (n : Int) :
    (ofInt n).place = if n < 0 then -(magnitudePlace n.natAbs : Int) - 1
      else (magnitudePlace n.natAbs : Int) := by
  unfold ofInt
  by_cases h : nearestOrdinal n.natAbs 1 < 0x7FF * binade
  · have hplace : magnitudePlace n.natAbs = nearestOrdinal n.natAbs 1 := by
      simp only [magnitudePlace, binade_eq] at h ⊢
      omega
    rw [ofRatio?_of_lt h, Option.getD_some, hplace]
    simp only [place, decide_eq_true_eq]
  · have hplace : magnitudePlace n.natAbs = 0x7FF * binade - 1 := by
      simp only [magnitudePlace, binade_eq] at h ⊢
      omega
    rw [ofRatio?_of_not_lt h, Option.getD_none, hplace]
    simp only [place, greatest, decide_eq_true_eq]

theorem magnitudePlace_mono {m n : Nat} (h : m ≤ n) : magnitudePlace m ≤ magnitudePlace n := by
  have hplace := nearestOrdinal_mono h
  unfold magnitudePlace
  omega

theorem magnitudePlace_strictMono {m n : Nat} (hlt : m < n) (hn : n ≤ 2 ^ 53) :
    magnitudePlace m < magnitudePlace n := by
  have hplace := nearestOrdinal_strictMono hlt hn
  have htop : nearestOrdinal n 1 ≤ nearestOrdinal (2 ^ 53) 1 := nearestOrdinal_mono hn
  have hbound : nearestOrdinal (2 ^ 53) 1 < 0x7FF * binade - 1 := by decide +kernel
  unfold magnitudePlace
  omega

/-- Rounding keeps the order of integers. -/
theorem place_ofInt_mono {m n : Int} (h : m ≤ n) : (ofInt m).place ≤ (ofInt n).place := by
  rw [place_ofInt, place_ofInt]
  split_ifs with hm hn hn
  · have hmag := magnitudePlace_mono (show n.natAbs ≤ m.natAbs by omega)
    omega
  · omega
  · omega
  · have hmag := magnitudePlace_mono (show m.natAbs ≤ n.natAbs by omega)
    omega

/-- Rounding tells integers up to 2^53 apart. -/
theorem place_ofInt_strictMono {m n : Int} (hlt : m < n) (hm : m.natAbs ≤ 2 ^ 53)
    (hn : n.natAbs ≤ 2 ^ 53) : (ofInt m).place < (ofInt n).place := by
  rw [place_ofInt, place_ofInt]
  split_ifs with hneg hneg' hneg'
  · have hmag := magnitudePlace_strictMono (show n.natAbs < m.natAbs by omega) hm
    omega
  · omega
  · omega
  · have hmag := magnitudePlace_strictMono (show m.natAbs < n.natAbs by omega) hn
    omega

theorem place_injective : Function.Injective place := by
  rintro ⟨s, o, ho⟩ ⟨s', o', ho'⟩ h
  simp only [place] at h
  cases s <;> cases s' <;> simp at h ⊢ <;> omega

end RecordListing.Binary64
