import Mathlib.Data.List.FinRange
import Mathlib.Data.List.Forall2
import Mathlib.Data.List.Sort
import RecordListing.Sorter

namespace RecordListing

/-!
# The stable ascending order

Sorting by insertion returns the entries in the order of their positions, compared
first by the comparison given and among ties by what comes earlier. Only
transitivity on the entries at hand is needed for that.
-/

section Relation

variable {α β : Type} {R : α → β → Prop} {less : α → α → Bool} {less' : β → β → Bool}

theorem forall₂_insertDescending
    (hless : ∀ a b a' b', R a a' → R b b' → less a b = less' a' b') {x : α} {x' : β}
    {ys : List α} {ys' : List β} (hx : R x x') (hys : List.Forall₂ R ys ys') :
    List.Forall₂ R (insertDescending less x ys) (insertDescending less' x' ys') := by
  induction hys with
  | nil => exact .cons hx .nil
  | cons hy hys ih =>
      simp only [insertDescending, hless _ _ _ _ hx hy]
      split
      · exact .cons hy ih
      · exact .cons hx (.cons hy hys)

/-- Lists that are related entry by entry, with comparisons that agree on related
entries, are still related entry by entry after sorting. -/
theorem forall₂_stableSort
    (hless : ∀ a b a' b', R a a' → R b b' → less a b = less' a' b') {xs : List α}
    {xs' : List β} (hxs : List.Forall₂ R xs xs') :
    List.Forall₂ R (stableSort less xs) (stableSort less' xs') := by
  have hfold : ∀ (ys : List α) (ys' : List β), List.Forall₂ R ys ys' →
      List.Forall₂ R (xs.foldl (fun sorted x => insertDescending less x sorted) ys)
        (xs'.foldl (fun sorted x => insertDescending less' x sorted) ys') := by
    induction hxs with
    | nil => exact fun _ _ hys => hys
    | cons hx _ ih =>
        intro ys ys' hys
        exact ih _ _ (forall₂_insertDescending hless hx hys)
  exact List.forall₂_reverse_iff.mpr (hfold [] [] .nil)

theorem stableSort_map (f : α → β) (less : β → β → Bool) (xs : List α) :
    stableSort less (xs.map f) = (stableSort (fun a b => less (f a) (f b)) xs).map f := by
  have hrel : List.Forall₂ (fun a b => f a = b) xs (xs.map f) := by
    rw [List.forall₂_map_right_iff]
    exact List.forall₂_same.mpr fun _ _ => rfl
  have hless : ∀ a b a' b', f a = a' → f b = b' → less (f a) (f b) = less a' b' := by
    rintro a b _ _ rfl rfl
    rfl
  have hsorted := forall₂_stableSort hless hrel
  rw [← List.forall₂_map_left_iff, List.forall₂_eq_eq_eq] at hsorted
  exact hsorted.symm

end Relation

section Permutation

variable {α : Type} (less : α → α → Bool)

theorem insertDescending_perm (x : α) (ys : List α) :
    (insertDescending less x ys).Perm (x :: ys) := by
  induction ys with
  | nil => exact List.Perm.refl _
  | cons y ys ih =>
      simp only [insertDescending]
      split
      · exact (ih.cons y).trans (List.Perm.swap x y ys)
      · exact List.Perm.refl _

theorem foldl_insertDescending_perm (xs ys : List α) :
    (xs.foldl (fun sorted x => insertDescending less x sorted) ys).Perm (xs ++ ys) := by
  induction xs generalizing ys with
  | nil => exact List.Perm.refl _
  | cons x xs ih =>
      have hins : (xs ++ insertDescending less x ys).Perm (xs ++ x :: ys) :=
        (insertDescending_perm less x ys).append_left xs
      exact ((ih _).trans hins).trans List.perm_middle

theorem stableSort_perm (xs : List α) : (stableSort less xs).Perm xs := by
  have hfold := foldl_insertDescending_perm less xs []
  rw [List.append_nil] at hfold
  exact (List.reverse_perm _).trans hfold

end Permutation

section Order

variable {α : Type} (cmp : α → α → Ordering) (earlier : α → α → Prop)

/-- Less, or a tie that the one wins which comes earlier. -/
def Precedes (a b : α) : Prop := cmp a b = .lt ∨ cmp a b = .eq ∧ earlier a b

variable {cmp earlier}

theorem Precedes.isLE {a b : α} (h : Precedes cmp earlier a b) : (cmp a b).isLE := by
  rcases h with hlt | ⟨heq, -⟩
  · rw [hlt]
    rfl
  · rw [heq]
    rfl

theorem precedes_of_isLE {a b : α} (h : (cmp a b).isLE) (hab : earlier a b) :
    Precedes cmp earlier a b := by
  cases hcmp : cmp a b with
  | lt => exact .inl hcmp
  | eq => exact .inr ⟨hcmp, hab⟩
  | gt => simp [hcmp] at h

variable [Std.TransCmp cmp]

/-- Among descending entries a later one goes where the entries behind precede it. -/
theorem pairwise_insertDescending {x : α} {ys : List α} (hlater : ∀ y ∈ ys, earlier y x)
    (hys : ys.Pairwise fun b a => Precedes cmp earlier a b) :
    (insertDescending (fun a b => cmp a b == .lt) x ys).Pairwise
      fun b a => Precedes cmp earlier a b := by
  induction ys with
  | nil => exact List.pairwise_singleton _ x
  | cons y ys ih =>
      obtain ⟨hy, hys⟩ := List.pairwise_cons.mp hys
      have hlater' : ∀ z ∈ ys, earlier z x := fun z hz => hlater z (List.mem_cons_of_mem y hz)
      simp only [insertDescending]
      split
      · rename_i hless
        refine List.pairwise_cons.mpr ⟨?_, ih hlater' hys⟩
        intro z hz
        rcases List.mem_cons.mp ((insertDescending_perm _ x ys).mem_iff.mp hz) with rfl | hz
        · exact .inl (by simpa using hless)
        · exact hy z hz
      · rename_i hless
        have hyx : (cmp y x).isLE := by
          rw [(Std.OrientedCmp.eq_swap : cmp y x = _)]
          cases hcmp : cmp x y <;> simp_all
        refine List.pairwise_cons.mpr ⟨?_, List.pairwise_cons.mpr ⟨hy, hys⟩⟩
        intro z hz
        rcases List.mem_cons.mp hz with rfl | hz
        · exact precedes_of_isLE hyx (hlater z List.mem_cons_self)
        · exact precedes_of_isLE (Std.TransCmp.isLE_trans (hy z hz).isLE hyx) (hlater' z hz)

theorem pairwise_foldl_insertDescending {xs ys : List α}
    (hlater : ∀ y ∈ ys, ∀ x ∈ xs, earlier y x) (hxs : xs.Pairwise earlier)
    (hys : ys.Pairwise fun b a => Precedes cmp earlier a b) :
    (xs.foldl (fun sorted x => insertDescending (fun a b => cmp a b == .lt) x sorted) ys).Pairwise
      fun b a => Precedes cmp earlier a b := by
  induction xs generalizing ys with
  | nil => exact hys
  | cons x xs ih =>
      obtain ⟨hx, hxs⟩ := List.pairwise_cons.mp hxs
      have hins := pairwise_insertDescending (fun y hy => hlater y hy x List.mem_cons_self) hys
      refine ih ?_ hxs hins
      intro y hy z hz
      rcases List.mem_cons.mp ((insertDescending_perm _ x ys).mem_iff.mp hy) with rfl | hy
      · exact hx z hz
      · exact hlater y hy z (List.mem_cons_of_mem x hz)

/-- Entries that come one after the other are sorted by the comparison first and by
their coming second. -/
theorem pairwise_stableSort {xs : List α} (hxs : xs.Pairwise earlier) :
    (stableSort (fun a b => cmp a b == .lt) xs).Pairwise (Precedes cmp earlier) := by
  have hlater : ∀ y ∈ ([] : List α), ∀ x ∈ xs, earlier y x := by simp
  exact List.pairwise_reverse.mpr (pairwise_foldl_insertDescending hlater hxs .nil)

end Order

/-! ## Positions -/

/-- The entries of `ys` are those of `xs` in ascending order, ties in the order of their
positions in `xs`. -/
def StablyAscending {α : Type} (cmp : α → α → Ordering) (xs ys : List α) : Prop :=
  ∃ order : List (Fin xs.length), order.Perm (List.finRange xs.length) ∧
    ys = order.map xs.get ∧
      order.Pairwise (Precedes (fun i j => cmp (xs.get i) (xs.get j)) (· < ·))

section Positions

variable {α : Type} {cmp : α → α → Ordering} {xs ys : List α}

theorem StablyAscending.ascending (h : StablyAscending cmp xs ys) :
    ys.Pairwise fun a b => cmp a b ≠ .gt := by
  obtain ⟨order, -, rfl, horder⟩ := h
  rw [List.pairwise_map]
  exact horder.imp fun hij => Ordering.isLE_iff_ne_gt.mp hij.isLE

/-- Entries that all tie keep the order in which they came. -/
theorem StablyAscending.filter_eq (h : StablyAscending cmp xs ys) {p : α → Bool}
    (htie : ∀ x ∈ xs, ∀ y ∈ xs, p x = true → p y = true → cmp x y = .eq) :
    ys.filter p = xs.filter p := by
  obtain ⟨order, hperm, rfl, horder⟩ := h
  have hkept : (order.filter (p ∘ xs.get)).Pairwise (· < ·) := by
    refine List.Pairwise.imp_of_mem ?_ (horder.filter (p ∘ xs.get))
    intro i j hi hj hij
    -- Of two that tie, only the one at the earlier position can precede the other.
    rcases hij with hlt | ⟨-, hlt⟩
    · have heq := htie _ (List.get_mem xs i) _ (List.get_mem xs j)
        (List.mem_filter.mp hi).2 (List.mem_filter.mp hj).2
      cases hlt.symm.trans heq
    · exact hlt
  have hall : ((List.finRange xs.length).filter (p ∘ xs.get)).Pairwise (· < ·) :=
    (List.sortedLT_finRange _).pairwise.filter _
  have hsame : order.filter (p ∘ xs.get) = (List.finRange xs.length).filter (p ∘ xs.get) := by
    refine List.Perm.eq_of_pairwise ?_ hkept hall (hperm.filter _)
    intro i j _ _ hij hji
    exact absurd (hij.trans hji) (lt_irrefl i)
  calc (order.map xs.get).filter p
      = (order.filter (p ∘ xs.get)).map xs.get := List.filter_map
    _ = ((List.finRange xs.length).filter (p ∘ xs.get)).map xs.get := by rw [hsame]
    _ = ((List.finRange xs.length).map xs.get).filter p := List.filter_map.symm
    _ = xs.filter p := by rw [List.map_get_finRange]

/-- Sorting is stable and ascending where the comparison is transitive on the list. -/
theorem stablyAscending_stableSort [Std.OrientedCmp cmp]
    (htrans : ∀ a ∈ xs, ∀ b ∈ xs, ∀ c ∈ xs,
      (cmp a b).isLE → (cmp b c).isLE → (cmp a c).isLE) :
    StablyAscending cmp xs (stableSort (fun a b => cmp a b == .lt) xs) := by
  have hpositions : Std.TransCmp fun i j : Fin xs.length => cmp (xs.get i) (xs.get j) :=
    { eq_swap := Std.OrientedCmp.eq_swap
      isLE_trans := fun hij hjk =>
        htrans _ (List.get_mem xs _) _ (List.get_mem xs _) _ (List.get_mem xs _) hij hjk }
  refine ⟨_, stableSort_perm _ _, ?_, pairwise_stableSort (List.sortedLT_finRange _).pairwise⟩
  have hmap := stableSort_map xs.get (fun a b => cmp a b == .lt) (List.finRange xs.length)
  rwa [List.map_get_finRange] at hmap

end Positions

end RecordListing
