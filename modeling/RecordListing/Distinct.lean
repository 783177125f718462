namespace RecordListing

/-!
# First occurrences

`distinct` keeps every entry of a list where it first occurs.
-/

variable {α : Type} [DecidableEq α]

def distinct : List α → List α
  | [] => []
  | a :: as => a :: (distinct as).filter (· ≠ a)

@[simp] theorem distinct_nil : distinct ([] : List α) = [] := rfl

@[simp] theorem mem_distinct {a : α} {as : List α} : a ∈ distinct as ↔ a ∈ as := by
  induction as with
  | nil => simp
  | cons b as ih =>
      by_cases h : a = b
      · simp [distinct, h]
      · simp [distinct, h, ih]

theorem nodup_distinct (as : List α) : (distinct as).Nodup := by
  induction as with
  | nil => simp
  | cons a as ih =>
      simp only [distinct, List.nodup_cons]
      exact ⟨by simp, ih.filter _⟩

/-- Entries stay in the order in which they first occur. -/
theorem pairwise_idxOf_distinct (as : List α) :
    (distinct as).Pairwise fun a b => as.idxOf a < as.idxOf b := by
  induction as with
  | nil => exact .nil
  | cons a as ih =>
      have hne {b : α} (hb : b ∈ (distinct as).filter (· ≠ a)) : (a == b) = false :=
        beq_eq_false_iff_ne.mpr (Ne.symm (of_decide_eq_true (List.mem_filter.mp hb).2))
      refine List.pairwise_cons.mpr ⟨fun b hb => ?_, ?_⟩
      · simp [List.idxOf_cons, hne hb]
      · refine (ih.filter _).imp_of_mem fun {b c} hb hc hbc => ?_
        simpa [List.idxOf_cons, hne hb, hne hc] using hbc

@[simp] theorem distinct_eq_nil {as : List α} : distinct as = [] ↔ as = [] := by
  cases as <;> simp [distinct]

end RecordListing
