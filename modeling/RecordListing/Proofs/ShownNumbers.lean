import Mathlib
import RecordListing.Row
import RecordListing.Proofs.Declarations
import RecordListing.Proofs.ShortestForm
import RecordListing.Proofs.Sorting

namespace RecordListing

/-!
# Numbers in integer columns

An integer column shows two numbers alike only if they are one number or one integer in two
forms. Such numbers tie, the two zeros apart: both show `0`, but the negative one is less.
-/

open Spelling

/-! ## Integers among the binary64 numbers -/

namespace Binary64

theorem units_of_toInt? {x : Binary64} {n : Int} (h : x.toInt? = some n) :
    units x.ordinal = n.natAbs <<< 1074 ∧ (n ≠ 0 → x.negative = decide (n < 0)) := by
  unfold toInt? at h
  dsimp only at h
  split at h
  · rename_i hwhole
    have hunits : units x.ordinal >>> 1074 <<< 1074 = units x.ordinal := by
      rw [Nat.shiftRight_eq_div_pow, Nat.shiftLeft_eq]
      exact Nat.div_mul_cancel (Nat.dvd_of_mod_eq_zero (by rwa [Nat.one_shiftLeft] at hwhole))
    have hn := Option.some.inj h
    generalize units x.ordinal >>> 1074 = k at hunits hn
    have habs : n.natAbs = k := by
      split at hn <;> omega
    rw [habs, hunits]
    refine ⟨rfl, fun hne => ?_⟩
    cases hsign : x.negative
    · rw [hsign, if_neg Bool.false_ne_true] at hn
      exact (decide_eq_false (by omega)).symm
    · rw [hsign, if_pos rfl] at hn
      exact (decide_eq_true (by omega)).symm
  · cases h

/-- A number that is an integer is the integer rounded, unless it is the negative zero. -/
theorem eq_ofInt_of_toInt? {x : Binary64} {n : Int} (h : x.toInt? = some n) :
    x = ofInt n ∨ x = zero.neg ∧ n = 0 := by
  obtain ⟨hunits, hsign⟩ := units_of_toInt? h
  have hordinal : nearestOrdinal n.natAbs 1 = x.ordinal := by
    rw [nearestOrdinal, ← hunits, scaledOrdinal_units]
  have hfinite : nearestOrdinal n.natAbs 1 < 0x7FF * binade := hordinal ▸ x.finite
  have hrounded : ofInt n = ⟨decide (n < 0), nearestOrdinal n.natAbs 1, hfinite⟩ := by
    rw [ofInt, ofRatio?_of_lt hfinite, Option.getD_some]
  by_cases hzero : n = 0
  · have hordinal' : x.ordinal = 0 := by
      apply units_strictMono.injective
      rw [hunits, hzero]
      rfl
    obtain ⟨negative, ordinal, hordinal⟩ := x
    cases negative with
    | true => exact .inr ⟨by simp_all [zero, neg], hzero⟩
    | false => exact .inl (by simp_all)
  · left
    rw [hrounded]
    cases x
    simp_all

theorem place_negativeZero : zero.neg.place = -1 := rfl

/-- No integer is rounded to the negative zero. -/
theorem ofInt_ne_negativeZero (n : Int) : ofInt n ≠ zero.neg := by
  intro h
  have hplace := place_ofInt n
  rw [h, place_negativeZero] at hplace
  have hone : magnitudePlace 0 < magnitudePlace 1 := magnitudePlace_strictMono one_pos (by norm_num)
  split at hplace
  · have hmono := magnitudePlace_mono (show 1 ≤ n.natAbs by omega)
    omega
  · omega

end Binary64

/-! ## What an integer column shows -/

theorem isInteger_integerText (n : Int) : IsInteger (integerText n) n :=
  Binary64.isInteger_signed false n

theorem integerText_injective : Function.Injective integerText := by
  intro m n h
  have hm := isInteger_iff.mp (isInteger_integerText m)
  have hn := isInteger_iff.mp (isInteger_integerText n)
  rw [hm.2.2, hn.2.2, h]

namespace Number

/-- The number below all that are shown as `0`. -/
def negativeZero : Number := .float Binary64.zero.neg

/-- The integer as which a number is shown. -/
def shownInteger? : Number → Option Int
  | .int n => some n
  | .float x => x.toInt?.filter fun n => n.natAbs < 1_000_000_000_000_000_000

theorem integralText_eq (a : Number) :
    (∃ n, a.shownInteger? = some n ∧ Json.integralText (.num a) = .ofList (integerText n)) ∨
      (a.shownInteger? = none ∧ ∃ x, a = .float x ∧
        Json.integralText (.num a) = .ofList (style.write x)) := by
  cases a with
  | int n => exact .inl ⟨n, rfl, rfl⟩
  | float x =>
      have htext : (Json.num (.float x)).toText = .ofList (style.write x) := rfl
      cases hinteger : x.toInt? with
      | none => exact .inr ⟨by simp [shownInteger?, hinteger], x, rfl, by
          simp [Json.integralText, hinteger, htext]⟩
      | some n =>
          by_cases hsmall : n.natAbs < 1_000_000_000_000_000_000
          · exact .inl ⟨n, by simp [shownInteger?, hinteger, hsmall], by
              simp [Json.integralText, hinteger, hsmall]⟩
          · exact .inr ⟨by simpa [shownInteger?, hinteger] using hsmall, x, rfl, by
              simp [Json.integralText, hinteger, hsmall, htext]⟩

theorem integralText_of_shownInteger? {a : Number} {n : Int} (h : a.shownInteger? = some n) :
    Json.integralText (.num a) = .ofList (integerText n) := by
  rcases integralText_eq a with ⟨m, hm, htext⟩ | ⟨hnone, -⟩
  · rwa [Option.some.inj (hm.symm.trans h)] at htext
  · cases hnone.symm.trans h

/-- Numbers are shown alike if they are one number or shown as one integer. -/
theorem integralText_eq_iff {a b : Number} :
    Json.integralText (.num a) = Json.integralText (.num b) ↔
      a = b ∨ ∃ n, a.shownInteger? = some n ∧ b.shownInteger? = some n := by
  have hmixed (n : Int) (x : Binary64) : integerText n ≠ style.write x := by
    intro heq
    exact Binary64.not_isInteger_write rfl x n (heq ▸ isInteger_integerText n)
  rcases integralText_eq a with ⟨m, hm, ha⟩ | ⟨hm, x, rfl, ha⟩ <;>
    rcases integralText_eq b with ⟨n, hn, hb⟩ | ⟨hn, y, rfl, hb⟩ <;>
    rw [ha, hb, hm, hn, String.ofList_inj]
  · rw [integerText_injective.eq_iff]
    constructor
    · rintro rfl
      exact .inr ⟨m, rfl, rfl⟩
    · rintro (rfl | ⟨k, hk, hk'⟩)
      · exact Option.some.inj (hm.symm.trans hn)
      · exact (Option.some.inj hk).trans (Option.some.inj hk').symm
  · refine iff_of_false (hmixed m y) ?_
    rintro (rfl | ⟨k, -, hk⟩)
    · cases hm.symm.trans hn
    · cases hk
  · refine iff_of_false (Ne.symm (hmixed n x)) ?_
    rintro (rfl | ⟨k, hk, -⟩)
    · cases hm.symm.trans hn
    · cases hk
  · rw [(Binary64.Notation.write_injective style).eq_iff]
    simp

/-! ## How numbers that are shown alike compare -/

/-- The place of a number that is shown as an integer. -/
theorem place_of_shownInteger? {a : Number} {n : Int} (h : a.shownInteger? = some n) :
    a.place = if a = negativeZero then -1 else (Binary64.ofInt n).place := by
  cases a with
  | int m =>
      cases h
      rw [if_neg (by simp [negativeZero])]
      rfl
  | float x =>
      obtain ⟨hinteger, -⟩ := Option.filter_eq_some_iff.mp h
      rcases Binary64.eq_ofInt_of_toInt? hinteger with rfl | ⟨rfl, rfl⟩
      · have hne : Number.float (Binary64.ofInt n) ≠ negativeZero := fun heq =>
          Binary64.ofInt_ne_negativeZero n (Number.float.inj heq)
        rw [if_neg hne]
        rfl
      · have heq : Number.float Binary64.zero.neg = negativeZero := rfl
        rw [if_pos heq]
        exact Binary64.place_negativeZero

theorem compare_of_shownInteger? {a b : Number} {n : Int} (ha : a.shownInteger? = some n)
    (hb : b.shownInteger? = some n) : a.compare b = Ord.compare a.place b.place := by
  cases a with
  | float x => exact compare_float_left x b
  | int m =>
      cases b with
      | float y => exact compare_float_right (.int m) y
      | int k =>
          cases ha
          cases hb
          exact Std.ReflOrd.compare_self.trans Std.ReflOrd.compare_self.symm

theorem shownInteger?_negativeZero : negativeZero.shownInteger? = some 0 := by decide

theorem place_ofInt_zero : (Binary64.ofInt 0).place = 0 := by decide

/-- The negative zero is shown as zero, and is below all others that are. -/
theorem compare_negativeZero {b : Number} (hb : b.shownInteger? = some 0)
    (hne : b ≠ negativeZero) : negativeZero.compare b = .lt := by
  rw [compare_of_shownInteger? shownInteger?_negativeZero hb, place_of_shownInteger? hb, if_neg hne,
    place_of_shownInteger? shownInteger?_negativeZero, if_pos rfl, place_ofInt_zero]
  rfl

theorem compare_of_ne_negativeZero {a b : Number} {n : Int} (ha : a.shownInteger? = some n)
    (hb : b.shownInteger? = some n) (hane : a ≠ negativeZero) (hbne : b ≠ negativeZero) :
    a.compare b = .eq := by
  rw [compare_of_shownInteger? ha hb, place_of_shownInteger? ha, place_of_shownInteger? hb,
    if_neg hane, if_neg hbne]
  exact Std.ReflOrd.compare_self

theorem compare_eq_iff_of_shown_alike {a b : Number}
    (h : Json.integralText (.num a) = Json.integralText (.num b)) :
    a.compare b = .eq ↔ (a = negativeZero ↔ b = negativeZero) := by
  rcases integralText_eq_iff.mp h with rfl | ⟨n, ha, hb⟩
  · exact iff_of_true Std.ReflCmp.compare_self Iff.rfl
  by_cases hane : a = negativeZero <;> by_cases hbne : b = negativeZero
  · subst hane hbne
    exact iff_of_true Std.ReflCmp.compare_self Iff.rfl
  · subst hane
    cases Option.some.inj (ha.symm.trans shownInteger?_negativeZero)
    simp [compare_negativeZero hb hbne, hbne]
  · subst hbne
    cases Option.some.inj (hb.symm.trans shownInteger?_negativeZero)
    simp [Std.OrientedCmp.gt_of_lt (compare_negativeZero ha hane), hane]
  · simp [compare_of_ne_negativeZero ha hb hane hbne, hane, hbne]

theorem shown_zero_of_shown_alike {b : Number}
    (h : Json.integralText (.num negativeZero) = Json.integralText (.num b))
    (hne : b ≠ negativeZero) :
    Json.integralText (.num b) = "0" ∧ negativeZero.compare b = .lt := by
  rcases integralText_eq_iff.mp h with rfl | ⟨n, hzero, hb⟩
  · exact absurd rfl hne
  cases Option.some.inj (hzero.symm.trans shownInteger?_negativeZero)
  exact ⟨integralText_of_shownInteger? hb, compare_negativeZero hb hne⟩

end Number

namespace Column

variable {c : Column}

/-- Numbers that an integer column shows alike tie, unless one of them is the negative zero and
the other is not: then both are shown as `0`, and the negative zero comes first. So among
records with unblurred keys those that show the same number in the column to order by keep
their order, the negative zero apart. -/
theorem compare_of_shown_alike (hkind : c.kind = .integer) (hdisplay : c.display = .raw) :
    (∀ m n : Number, c.display.cellText c.kind (.num m) = c.display.cellText c.kind (.num n) →
      (c.kind.compare (some (.num m)) (some (.num n)) = .eq ↔
        (m = .negativeZero ↔ n = .negativeZero)) ∧
      (m = .negativeZero → n ≠ .negativeZero →
        c.display.cellText c.kind (.num n) = "0" ∧
          c.kind.compare (some (.num m)) (some (.num n)) = .lt)) ∧
    ∀ overrides r kind name, Registry.withOverrides overrides = .ok r →
      (r.entity kind).column? name = some c →
        ∀ records : List Json, Unblurred (records.map c.orderKey) →
          ∀ (text : String) (zero : Prop) (p : Json → Bool),
            (∀ record ∈ records, p record = true → ∃ n : Number,
              record.field? c.path = some (.num n) ∧ (n = .negativeZero ↔ zero) ∧
                c.display.cellText c.kind (.num n) = text) →
            ((Sorter.ofRegistry r).sort kind (some name) records).filter p = records.filter p := by
  have hcompare (m n : Number) : c.kind.compare (some (.num m)) (some (.num n)) = m.compare n := by
    rw [hkind]
    rfl
  have htext (n : Number) : c.display.cellText c.kind (.num n) = Json.integralText (.num n) := by
    rw [hkind, hdisplay]
    rfl
  simp only [htext]
  constructor
  · intro m n h
    rw [hcompare]
    refine ⟨Number.compare_eq_iff_of_shown_alike h, ?_⟩
    rintro rfl hne
    exact Number.shown_zero_of_shown_alike h hne
  · intro overrides r kind name hr hc records hunblurred text zero p hshown
    apply Sorter.filter_sort hr hc hunblurred
    intro a ha b hb hpa hpb
    obtain ⟨m, hm, hmzero, hmtext⟩ := hshown a ha hpa
    obtain ⟨n, hn, hnzero, hntext⟩ := hshown b hb hpb
    rw [compare, hm, hn, hcompare]
    exact (Number.compare_eq_iff_of_shown_alike (hmtext.trans hntext.symm)).mpr
      (hmzero.trans hnzero.symm)

/-- An integer beyond 2^53 and the same as a binary64 number are shown alike and tie. -/
theorem compare_of_shown_alike_capacity :
    let size : Int := 576460752303423488
    let records : List Json := [
      .obj [("capacityGb", .num (.float (.ofInt size)))], .obj [("capacityGb", .num (.int size))]]
    ∃ r c, Registry.withOverrides (fun _ => none) = .ok r ∧
      (r.entity .volume).column? (.ofText "capacity_gb") = some c ∧
      c.kind.compare (some (.num (.int size))) (some (.num (.float (.ofInt size)))) = .eq ∧
      (Sorter.ofRegistry r).sort .volume (some (.ofText "capacity_gb")) records = records := by
  intro size records
  obtain ⟨r, hr⟩ := Registry.exists_withOverrides_none
  have hbuilt := Entity.builtFrom_of_ofDeclaration (Registry.ofDeclaration_entity hr .volume)
  let declared : ColumnDeclaration := ⟨"capacity_gb", "capacityGb", .integer, "Capacity (GB)", .raw⟩
  have hdeclared : declared ∈ (Catalogue.declaration .volume).columns := by
    simp [declared, Catalogue.declaration, Catalogue.volume, Catalogue.volumeColumns]
  obtain ⟨c, hc, hgives⟩ := hbuilt.exists_column? hdeclared
  have hkind : c.kind = .integer := hgives.kind
  have hdisplay : c.display = .raw := hgives.display
  have htext (n : Number) (hn : n.shownInteger? = some size) :
      c.display.cellText c.kind (.num n) = .ofList (integerText size) := by
    rw [hkind, hdisplay]
    exact Number.integralText_of_shownInteger? hn
  have hinteger := htext (.int size) rfl
  have hfloat := htext (.float (.ofInt size)) (by set_option maxRecDepth 4000 in decide)
  have hpositive : Number.float (.ofInt size) ≠ .negativeZero := fun heq =>
    Binary64.ofInt_ne_negativeZero size (Number.float.inj heq)
  have hfield (n : Number) :
      (Json.obj [("capacityGb", .num n)]).field? c.path = some (.num n) := by
    have hpath : c.path = ⟨["capacityGb"], by decide, by decide⟩ :=
      FieldPath.toText_injective hgives.path
    rw [Json.field?, hpath]
    rfl
  have hkeys : records.map c.orderKey = [.number (.float (.ofInt size)), .number (.int size)] := by
    simp only [records, List.map_cons, List.map_nil, orderKey, hfield, hkind]
    rfl
  have hunblurred : Unblurred (records.map c.orderKey) := by
    rw [hkeys]
    rintro _ hx _ _ _ hz ⟨_, _, _, ⟨m, n, hnm, -, rfl, -, rfl⟩, rfl, -, rfl⟩
    -- There is one integer only.
    have hm : m = size := by simpa using hx
    have hn : n = size := by simpa using hz
    omega
  obtain ⟨halike, hsort⟩ := compare_of_shown_alike hkind hdisplay
  refine ⟨r, c, hr, hc, ?_, ?_⟩
  · exact (halike _ _ (hinteger.trans hfloat.symm)).1.mpr (iff_of_false (by decide) hpositive)
  · have hshown : ∀ record ∈ records, true = true → ∃ n : Number,
        record.field? c.path = some (.num n) ∧ (n = .negativeZero ↔ False) ∧
          c.display.cellText c.kind (.num n) = .ofList (integerText size) := by
      intro record hrecord _
      rcases List.mem_pair.mp hrecord with rfl | rfl
      · exact ⟨.float (.ofInt size), hfield _, iff_of_false hpositive id, hfloat⟩
      · exact ⟨.int size, hfield _, iff_of_false (by decide) id, hinteger⟩
    have hkept := hsort _ _ _ _ hr hc records hunblurred _ False (fun _ => true) hshown
    simpa using hkept

/-- Zero and the negative zero are shown alike and do not tie. -/
theorem zeros_shown_alike_not_tied :
    ¬ ∀ (c : Column) (m n : Number), c.kind = .integer → c.display = .raw →
      c.display.cellText c.kind (.num m) = c.display.cellText c.kind (.num n) →
        c.kind.compare (some (.num m)) (some (.num n)) = .eq := by
  intro htied
  have hzeros := htied ⟨.ofText "id", ⟨["id"], by decide, by decide⟩, .integer, "ID", .raw⟩
    .negativeZero (.int 0) rfl rfl (by decide)
  exact absurd hzeros (by decide)

end Column

end RecordListing
