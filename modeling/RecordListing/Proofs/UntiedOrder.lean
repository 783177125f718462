import RecordListing.Proofs.Sorting

namespace RecordListing

/-!
# Records that do not tie

Where no two records tie in the sort column, their order does not depend on the order
in which they came. Keys that rounding blurs do tie, so no bound on the numbers is needed.
-/

theorem OrderKey.compare_of_blurred {a b c : OrderKey} (h : Blurred a b c) :
    a.compare b = .eq := by
  obtain ⟨x, y, z, hblurred, rfl, rfl, -⟩ := h
  exact (Number.compare_of_blurred hblurred).1

theorem OrderKey.ne_of_blurred {a b c : OrderKey} (h : Blurred a b c) : a ≠ b := by
  obtain ⟨x, y, z, ⟨m, n, -, -, rfl, rfl, -⟩, rfl, rfl, -⟩ := h
  simp

namespace Column

/-- No two records at different positions tie in this column. -/
def Untied (c : Column) (records : List Json) : Prop :=
  records.Pairwise fun a b => c.compare a b ≠ .eq

variable {c : Column} {records records' : List Json}

theorem compare_ne_eq_symm {a b : Json} (h : c.compare a b ≠ .eq) : c.compare b a ≠ .eq :=
  fun hba => h (Std.OrientedCmp.eq_symm hba)

instance : Std.Symm fun a b => c.compare a b ≠ .eq := ⟨fun _ _ => compare_ne_eq_symm⟩

theorem Untied.perm (h : c.Untied records) (hperm : records.Perm records') :
    c.Untied records' :=
  hperm.pairwise h compare_ne_eq_symm

theorem Untied.ne_eq (h : c.Untied records) {a b : Json} (ha : a ∈ records) (hb : b ∈ records)
    (hne : a ≠ b) : c.compare a b ≠ .eq :=
  List.Pairwise.forall h ha hb hne

theorem Untied.unblurred (h : c.Untied records) : Unblurred (records.map c.orderKey) := by
  intro a ha b hb d _ hblurred
  obtain ⟨x, hx, rfl⟩ := List.mem_map.mp ha
  obtain ⟨y, hy, rfl⟩ := List.mem_map.mp hb
  -- Records with blurred keys are not one record, and they tie.
  have hkeys : c.orderKey x ≠ c.orderKey y := OrderKey.ne_of_blurred hblurred
  have hne : x ≠ y := fun hxy => hkeys (congrArg c.orderKey hxy)
  exact h.ne_eq hx hy hne (OrderKey.compare_of_blurred hblurred)

theorem pairwise_lt_stableSort (h : c.Untied records) :
    (stableSort (fun a b => c.compare a b == .lt) records).Pairwise
      fun a b => c.compare a b = .lt := by
  have hstable := stablyAscending h.unblurred
  have huntied := h.perm (stableSort_perm (fun a b => c.compare a b == .lt) records).symm
  refine (hstable.ascending.and huntied).imp ?_
  rintro a b ⟨hgt, heq⟩
  cases hcmp : c.compare a b <;> simp_all

/-- There is one strictly ascending order of some records at most. -/
theorem eq_of_pairwise_lt {sorted sorted' : List Json}
    (h : sorted.Pairwise fun a b => c.compare a b = .lt)
    (h' : sorted'.Pairwise fun a b => c.compare a b = .lt) (hperm : sorted.Perm sorted') :
    sorted = sorted' := by
  refine hperm.eq_of_pairwise ?_ h h'
  intro a b _ _ hab hba
  rw [Std.OrientedCmp.gt_of_lt hab] at hba
  cases hba

theorem stableSort_eq_of_perm (h : c.Untied records) (hperm : records'.Perm records) :
    stableSort (fun a b => c.compare a b == .lt) records' =
      stableSort (fun a b => c.compare a b == .lt) records := by
  have hsorted := stableSort_perm (fun a b => c.compare a b == .lt)
  refine eq_of_pairwise_lt (pairwise_lt_stableSort (h.perm hperm.symm))
    (pairwise_lt_stableSort h) ?_
  exact (hsorted records').trans (hperm.trans (hsorted records).symm)

end Column

/-- Sorting by a supported key puts records that do not tie in strictly ascending order, the
same for every order in which they come. -/
theorem Sorter.sort_eq_of_perm {overrides : Kind → Option Override} {r : Registry}
    (hr : Registry.withOverrides overrides = .ok r) {kind : Kind} {name : ColumnName}
    (hsupported : (ofRegistry r).supports kind name = true) :
    ∃ c, (r.entity kind).column? name = some c ∧ ∀ records, c.Untied records →
      ((ofRegistry r).sort kind (some name) records).Pairwise (fun a b => c.compare a b = .lt) ∧
      ∀ records', records'.Perm records →
        (ofRegistry r).sort kind (some name) records' =
          (ofRegistry r).sort kind (some name) records := by
  obtain ⟨c, hc⟩ := exists_column_of_supports hr hsupported
  refine ⟨c, hc, fun records huntied => ?_⟩
  simp only [sort_eq_stableSort hr hsupported hc]
  exact ⟨Column.pairwise_lt_stableSort huntied,
    fun _ hperm => Column.stableSort_eq_of_perm huntied hperm⟩

/-- Sizes of volumes beyond 2^53, as integers, as a text of digits and as a binary64 number. -/
theorem Sorter.sort_eq_of_perm_capacity :
    let records : List Json := [
      .obj [("capacityGb", .num (.int 9007199254740995))], .obj [],
      .obj [("capacityGb", .str "9007199254740994")],
      .obj [("capacityGb", .num (.float (.ofInt 9007199254740992)))]]
    ∃ r, Registry.withOverrides (fun _ => none) = .ok r ∧
      (ofRegistry r).supports .volume (.ofText "capacity_gb") = true ∧
      (ofRegistry r).sort .volume (some (.ofText "capacity_gb")) records.reverse =
        (ofRegistry r).sort .volume (some (.ofText "capacity_gb")) records := by
  intro records
  obtain ⟨r, hr⟩ := Registry.exists_withOverrides_none
  obtain ⟨hsortable, hregistered⟩ :=
    Registry.entity_of_any hr .volume (P := fun e =>
      e.Sortable (.ofText "capacity_gb") ∧
        (e.column? (.ofText "capacity_gb")).map (fun c => (c.path.segments, c.kind)) =
          some (["capacityGb"], .integer)) (by decide +kernel)
  have hsupported := (supports_iff hr).mpr hsortable
  obtain ⟨c, hc, hsorted⟩ := sort_eq_of_perm hr hsupported
  obtain ⟨hpath, hkind⟩ : c.path.segments = ["capacityGb"] ∧ c.kind = .integer := by
    simpa [hc] using hregistered
  have huntied : c.Untied records := by
    unfold Column.Untied Column.compare Json.field?
    rw [hpath, hkind]
    decide +kernel
  exact ⟨r, hr, hsupported, (hsorted records huntied).2 _ records.reverse_perm⟩

end RecordListing
