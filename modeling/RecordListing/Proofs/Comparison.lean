import RecordListing.OrderKey
import RecordListing.Proofs.Rounding

namespace RecordListing

/-!
# How order keys compare

The comparison of order keys is oriented, and it is transitive but for one
configuration: two integers in descending order with the binary64 number between
them to which both are rounded.
-/

namespace Number

def place (n : Number) : Int := (compare.rounded n).place

theorem compare_float_left (x : Binary64) (b : Number) :
    Number.compare (.float x) b = Ord.compare (place (.float x)) b.place := by
  cases b <;> rfl

theorem compare_float_right (a : Number) (x : Binary64) :
    a.compare (.float x) = Ord.compare a.place (place (.float x)) := by
  cases a <;> rfl

instance : Std.OrientedCmp Number.compare where
  eq_swap {a b} := by
    cases a with
    | int m =>
        cases b with
        | int n => exact Std.OrientedOrd.eq_swap
        | float y =>
            rw [compare_float_left, compare_float_right]
            exact Std.OrientedOrd.eq_swap
    | float x =>
        rw [compare_float_left, compare_float_right]
        exact Std.OrientedOrd.eq_swap

theorem place_le_of_isLE {a b : Number} (h : (a.compare b).isLE) : a.place ≤ b.place := by
  cases a with
  | int m =>
      cases b with
      | int n => exact Binary64.place_ofInt_mono (Int.isLE_compare.mp h)
      | float y => exact Int.isLE_compare.mp (compare_float_right _ y ▸ h)
  | float x => exact Int.isLE_compare.mp (compare_float_left x b ▸ h)

/-- Two integers in descending order, and the number to which both are rounded. -/
def Blurred (a b c : Number) : Prop :=
  ∃ m n : Int, n < m ∧ Binary64.ofInt m = Binary64.ofInt n ∧
    a = .int m ∧ b = .float (.ofInt m) ∧ c = .int n

theorem isLE_trans_or_blurred {a b c : Number} (hab : (a.compare b).isLE)
    (hbc : (b.compare c).isLE) : (a.compare c).isLE ∨ Blurred a b c := by
  have hle : a.place ≤ c.place := (place_le_of_isLE hab).trans (place_le_of_isLE hbc)
  cases a with
  | float x => exact .inl (compare_float_left x c ▸ Int.isLE_compare.mpr hle)
  | int m =>
      cases c with
      | float z => exact .inl (compare_float_right _ z ▸ Int.isLE_compare.mpr hle)
      | int n =>
          cases b with
          | int k => exact .inl (Std.TransOrd.isLE_trans hab hbc)
          | float y =>
              rcases le_or_gt m n with hmn | hnm
              · exact .inl (Int.isLE_compare.mpr hmn)
              · -- The places go up from `m` over `y` to `n`, and down again by rounding.
                have hmy : place (.int m) ≤ y.place := place_le_of_isLE hab
                have hyn : y.place ≤ place (.int n) := place_le_of_isLE hbc
                have hround : place (.int n) ≤ place (.int m) := Binary64.place_ofInt_mono hnm.le
                have hy : y = Binary64.ofInt m :=
                  Binary64.place_injective (le_antisymm (hyn.trans hround) hmy)
                have hn : Binary64.ofInt m = Binary64.ofInt n :=
                  Binary64.place_injective (le_antisymm (hmy.trans hyn) hround)
                exact .inr ⟨m, n, hnm, hn, rfl, hy ▸ rfl, rfl⟩

theorem compare_of_blurred {a b c : Number} (h : Blurred a b c) :
    a.compare b = .eq ∧ b.compare c = .eq ∧ a.compare c = .gt := by
  obtain ⟨m, n, hnm, hround, rfl, rfl, rfl⟩ := h
  refine ⟨?_, ?_, ?_⟩
  · rw [compare_float_right]
    exact Std.ReflOrd.compare_self
  · rw [compare_float_left, hround]
    exact Std.ReflOrd.compare_self
  · exact Std.OrientedCmp.gt_iff_lt.mpr (Int.compare_eq_lt.mpr hnm)

/-- One of the blurred integers is beyond those that rounding tells apart. -/
theorem Blurred.exceeds {a b c : Number} (h : Blurred a b c) :
    ∃ n : Int, 2 ^ 53 < n.natAbs ∧ (a = .int n ∨ c = .int n) := by
  obtain ⟨m, n, hnm, hround, rfl, -, rfl⟩ := h
  by_cases hm : m.natAbs ≤ 2 ^ 53
  · by_cases hn : n.natAbs ≤ 2 ^ 53
    · have hplace := Binary64.place_ofInt_strictMono hnm hn hm
      exact absurd (congrArg Binary64.place hround) hplace.ne'
    · exact ⟨n, not_le.mp hn, .inr rfl⟩
  · exact ⟨m, not_le.mp hm, .inl rfl⟩

end Number

namespace OrderKey

instance : Std.OrientedCmp OrderKey.compare where
  eq_swap {a b} := by
    cases a with
    | absent => cases b <;> rfl
    | number x =>
        cases b with
        | number y => exact (Std.OrientedCmp.eq_swap : x.compare y = _)
        | _ => rfl
    | other s =>
        cases b with
        | other t => exact (Std.OrientedOrd.eq_swap : Ord.compare s t = _)
        | _ => rfl

/-- The keys of two integers in descending order, and that of the number to which
both are rounded. -/
def Blurred (a b c : OrderKey) : Prop :=
  ∃ x y z : Number, x.Blurred y z ∧ a = .number x ∧ b = .number y ∧ c = .number z

theorem isLE_trans_or_blurred {a b c : OrderKey} (hab : (a.compare b).isLE)
    (hbc : (b.compare c).isLE) : (a.compare c).isLE ∨ Blurred a b c := by
  cases a with
  | absent => cases c <;> exact .inl rfl
  | number x =>
      cases c with
      | absent => cases b <;> simp [compare] at hab hbc
      | other t => exact .inl rfl
      | number z =>
          cases b with
          | absent => simp [compare] at hab
          | other t => simp [compare] at hbc
          | number y =>
              refine (Number.isLE_trans_or_blurred hab hbc).imp id ?_
              intro hblurred
              exact ⟨x, y, z, hblurred, rfl, rfl, rfl⟩
  | other s =>
      cases b with
      | absent => simp [compare] at hab
      | number y => simp [compare] at hab
      | other t =>
          cases c with
          | absent => simp [compare] at hbc
          | number z => simp [compare] at hbc
          | other u => exact .inl (Std.TransOrd.isLE_trans (a := s) (b := t) hab hbc)

/-- Beyond the blurred keys the comparison is transitive, and among them it is not. -/
theorem isLE_trans_iff_not_blurred (a b c : OrderKey) :
    ((a.compare b).isLE → (b.compare c).isLE → (a.compare c).isLE) ↔ ¬ Blurred a b c := by
  constructor
  · rintro htrans ⟨x, y, z, hblurred, rfl, rfl, rfl⟩
    obtain ⟨hxy, hyz, hxz⟩ := Number.compare_of_blurred hblurred
    have hxz' : (x.compare z).isLE := htrans (by simp [compare, hxy]) (by simp [compare, hyz])
    simp [hxz] at hxz'
  · intro hblurred hab hbc
    exact (isLE_trans_or_blurred hab hbc).resolve_right hblurred

end OrderKey

namespace ValueKind

instance (kind : ValueKind) : Std.OrientedCmp kind.compare where
  eq_swap {a b} :=
    (Std.OrientedCmp.eq_swap : (kind.orderKey a).compare (kind.orderKey b) = _)

/-- The comparison of a kind is reflexive and oriented, and it is transitive on three
values exactly if their keys are not blurred. -/
theorem compare_preorder_iff (kind : ValueKind) (a b c : Option Json) :
    kind.compare a a = .eq ∧ kind.compare b a = (kind.compare a b).swap ∧
      ((kind.compare a b ≠ .gt → kind.compare b c ≠ .gt → kind.compare a c ≠ .gt) ↔
        ¬ OrderKey.Blurred (kind.orderKey a) (kind.orderKey b) (kind.orderKey c)) := by
  refine ⟨Std.ReflCmp.compare_self, Std.OrientedCmp.eq_swap, ?_⟩
  simp only [ValueKind.compare, ne_eq, Ordering.ne_gt_iff_isLE]
  exact OrderKey.isLE_trans_iff_not_blurred _ _ _

/-- The integers 2^53 + 1 and 2^53 tie with the binary64 number 2^53, not with each
other. -/
theorem compare_not_preorder :
    ¬ ∀ (kind : ValueKind) (a b c : Option Json),
      kind.compare a a = .eq ∧ kind.compare b a = (kind.compare a b).swap ∧
        (kind.compare a b ≠ .gt → kind.compare b c ≠ .gt → kind.compare a c ≠ .gt) := by
  intro hpreorder
  obtain ⟨-, -, htrans⟩ := hpreorder .integer (some (.num (.int 9007199254740993)))
    (some (.num (.float (.ofInt 9007199254740992)))) (some (.num (.int 9007199254740992)))
  exact htrans (by decide +kernel) (by decide +kernel) (by decide +kernel)

end ValueKind

end RecordListing
