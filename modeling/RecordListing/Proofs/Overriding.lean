import RecordListing.Proofs.Entities
import RecordListing.Proofs.Planning

namespace RecordListing

/-!
# Overridden entities

An attempt to override an entity replaces the default columns, if they are acceptable,
and then the default order. Whatever it comes to is an acceptable override of the same
entity, and that keeps the entity well-formed and the columns that may be shown. An
attempt that fails at the order has replaced the columns already.
-/

/-- The part of an override that is about columns. -/
def Override.columnsOnly (o : Override) : Override := { o with defaultSort := none }

namespace Entity

/-! ## Acceptable overrides -/

/-- The default columns that are asked for may all be shown, and there is one. -/
def AcceptsColumns (e : Entity) (o : Override) : Prop :=
  ∀ wanted, o.defaultColumns = some wanted →
    wanted ≠ [] ∧ ∀ name ∈ wanted, e.Displayable name

/-- The default order that is asked for is none or one to sort by. -/
def AcceptsSort (e : Entity) (o : Override) : Prop :=
  ∀ text, o.defaultSort = some text → ∀ name, SortKey.ofText text = some name → e.Sortable name

/-- The entity under an override, where both parts are acceptable. -/
def overridden (e : Entity) (o : Override) : Entity := { e with
  defaults := o.defaultColumns.elim e.defaults distinct
  optional := o.defaultColumns.elim e.optional fun wanted =>
    (e.defaults ++ e.optional).filter (· ∉ distinct wanted)
  defaultSort := o.defaultSort.elim e.defaultSort SortKey.ofText }

theorem acceptsColumns_iff_of_some {e : Entity} {o : Override} {wanted : List ColumnName}
    (h : o.defaultColumns = some wanted) :
    e.AcceptsColumns o ↔ wanted ≠ [] ∧ ∀ name ∈ wanted, e.Displayable name := by
  simp [AcceptsColumns, h]

theorem acceptsColumns_of_none (e : Entity) {o : Override} (h : o.defaultColumns = none) :
    e.AcceptsColumns o := by
  intro wanted hwanted
  cases h.symm.trans hwanted

theorem acceptsSort_of_none (e : Entity) {o : Override} (h : o.defaultSort = none) :
    e.AcceptsSort o := by
  intro text htext
  cases h.symm.trans htext

theorem overridden_defaults (e : Entity) (o : Override) :
    (e.overridden o).defaults = o.defaultColumns.elim e.defaults distinct := rfl

theorem overridden_defaultSort (e : Entity) (o : Override) :
    (e.overridden o).defaultSort = o.defaultSort.elim e.defaultSort SortKey.ofText := rfl

theorem overridden_empty (e : Entity) : e.overridden {} = e := rfl

theorem elim_setDefaults_eq_ok_iff {e e' : Entity} {o : Override} :
    o.defaultColumns.elim (.ok e) e.setDefaults = .ok e' ↔
      e.AcceptsColumns o ∧ e' = e.overridden o.columnsOnly := by
  unfold AcceptsColumns overridden Override.columnsOnly
  cases o.defaultColumns with
  | none =>
      constructor
      · intro h
        cases h
        exact ⟨by simp, rfl⟩
      · rintro ⟨-, rfl⟩
        rfl
  | some wanted => simp [setDefaults_eq_ok_iff, and_assoc]

theorem elim_setDefaultSort_eq_ok_iff {e e' : Entity} {o : Override} :
    (o.defaultSort.elim (.ok e) fun text => e.setDefaultSort (.ofText text)) = .ok e' ↔
      e.AcceptsSort o ∧
        e' = { e with defaultSort := o.defaultSort.elim e.defaultSort .ofText } := by
  unfold AcceptsSort
  cases o.defaultSort with
  | none =>
      constructor
      · intro h
        cases h
        exact ⟨by simp, rfl⟩
      · rintro ⟨-, rfl⟩
        rfl
  | some text => simp [setDefaultSort_eq_ok_iff]

theorem override_of_refused_columns {e : Entity} {o : Override} (h : ¬ e.AcceptsColumns o) :
    ∃ err, e.override o = ⟨e, some err⟩ := by
  cases hcolumns : o.defaultColumns.elim (.ok e) e.setDefaults with
  | error err => exact ⟨err, by simp only [override, hcolumns]⟩
  | ok e' => exact absurd (elim_setDefaults_eq_ok_iff.mp hcolumns).1 h

theorem override_of_refused_sort {e : Entity} {o : Override} (hcolumns : e.AcceptsColumns o)
    (hsort : ¬ e.AcceptsSort o) :
    ∃ err, e.override o = ⟨e.overridden o.columnsOnly, some err⟩ := by
  have hfirst := elim_setDefaults_eq_ok_iff.mpr ⟨hcolumns, rfl⟩
  cases hsecond : o.defaultSort.elim (.ok (e.overridden o.columnsOnly))
      fun text => (e.overridden o.columnsOnly).setDefaultSort (.ofText text) with
  | error err => exact ⟨err, by simp only [override, hfirst, hsecond]⟩
  | ok e' => exact absurd (elim_setDefaultSort_eq_ok_iff.mp hsecond).1 hsort

theorem override_of_accepted {e : Entity} {o : Override} (hcolumns : e.AcceptsColumns o)
    (hsort : e.AcceptsSort o) : e.override o = ⟨e.overridden o, none⟩ := by
  have hfirst := elim_setDefaults_eq_ok_iff.mpr ⟨hcolumns, rfl⟩
  have hsecond : (o.defaultSort.elim (.ok (e.overridden o.columnsOnly))
      fun text => (e.overridden o.columnsOnly).setDefaultSort (.ofText text)) =
        .ok (e.overridden o) :=
    elim_setDefaultSort_eq_ok_iff.mpr ⟨hsort, rfl⟩
  simp only [override, hfirst, hsecond]

theorem override_error_eq_none_iff {e : Entity} {o : Override} :
    (e.override o).error = none ↔ e.AcceptsColumns o ∧ e.AcceptsSort o := by
  constructor
  · intro h
    by_cases hcolumns : e.AcceptsColumns o
    · by_cases hsort : e.AcceptsSort o
      · exact ⟨hcolumns, hsort⟩
      · obtain ⟨err, herr⟩ := override_of_refused_sort hcolumns hsort
        simp [herr] at h
    · obtain ⟨err, herr⟩ := override_of_refused_columns hcolumns
      simp [herr] at h
  · rintro ⟨hcolumns, hsort⟩
    rw [override_of_accepted hcolumns hsort]

/-- An attempt leaves the entity under an acceptable override, also when it fails. -/
theorem exists_entity_override (e : Entity) (o : Override) :
    ∃ o', (e.override o).entity = e.overridden o' ∧ e.AcceptsColumns o' ∧ e.AcceptsSort o' := by
  by_cases hcolumns : e.AcceptsColumns o
  · by_cases hsort : e.AcceptsSort o
    · exact ⟨o, by rw [override_of_accepted hcolumns hsort], hcolumns, hsort⟩
    · obtain ⟨err, herr⟩ := override_of_refused_sort hcolumns hsort
      exact ⟨o.columnsOnly, by rw [herr], hcolumns, acceptsSort_of_none e rfl⟩
  · obtain ⟨err, herr⟩ := override_of_refused_columns hcolumns
    exact ⟨{}, by rw [herr, overridden_empty], acceptsColumns_of_none e rfl,
      acceptsSort_of_none e rfl⟩

/-! ## What every override keeps -/

theorem displayable_overridden {e : Entity} {o : Override} (h : e.AcceptsColumns o)
    (name : ColumnName) : (e.overridden o).Displayable name ↔ e.Displayable name := by
  unfold Displayable overridden
  cases hcolumns : o.defaultColumns with
  | none => exact Iff.rfl
  | some wanted =>
      have hshown := (h wanted hcolumns).2 name
      unfold Displayable at hshown
      by_cases hname : name ∈ wanted
      · simp [hname, hshown hname]
      · simp [hname]

theorem WellFormed.overridden {e : Entity} (h : e.WellFormed) {o : Override}
    (hcolumns : e.AcceptsColumns o) (hsort : e.AcceptsSort o) : (e.overridden o).WellFormed where
  columns_nodup := h.columns_nodup
  displayable_registered name hname :=
    h.displayable_registered name ((displayable_overridden hcolumns name).mp hname)
  sortable_registered := h.sortable_registered
  defaults_ne_nil := by
    rw [overridden_defaults]
    cases hwanted : o.defaultColumns with
    | none => exact h.defaults_ne_nil
    | some wanted => simpa using (hcolumns wanted hwanted).1
  not_both := by
    unfold Entity.overridden
    cases hwanted : o.defaultColumns with
    | none => exact h.not_both
    | some wanted =>
        intro name hname
        simpa using (List.mem_filter.mp hname).2
  defaultSort_sortable := by
    intro name hname
    rw [overridden_defaultSort] at hname
    cases htext : o.defaultSort with
    | none =>
        rw [htext, Option.elim_none] at hname
        exact h.defaultSort_sortable name hname
    | some text =>
        rw [htext, Option.elim_some] at hname
        exact hsort text htext name hname

theorem WellFormed.override {e : Entity} (h : e.WellFormed) (o : Override) :
    (e.override o).entity.WellFormed := by
  obtain ⟨o', hentity, hcolumns, hsort⟩ := exists_entity_override e o
  rw [hentity]
  exact h.overridden hcolumns hsort

theorem displayable_override (e : Entity) (o : Override) (name : ColumnName) :
    (e.override o).entity.Displayable name ↔ e.Displayable name := by
  obtain ⟨o', hentity, hcolumns, -⟩ := exists_entity_override e o
  rw [hentity]
  exact displayable_overridden hcolumns name

/-- An override that is accepted is accepted again and changes nothing more. -/
theorem override_again {e : Entity} {o : Override} (h : (e.override o).error = none) :
    (e.override o).entity.override o = e.override o := by
  obtain ⟨hcolumns, hsort⟩ := override_error_eq_none_iff.mp h
  have hcolumns' : (e.overridden o).AcceptsColumns o := by
    intro wanted hwanted
    obtain ⟨hne, hshown⟩ := hcolumns wanted hwanted
    exact ⟨hne, fun name hname => (displayable_overridden hcolumns name).mpr (hshown name hname)⟩
  have hagain : (e.overridden o).overridden o = e.overridden o := by
    unfold overridden
    cases o.defaultColumns <;> cases o.defaultSort <;> simp [List.filter_filter]
  rw [override_of_accepted hcolumns hsort]
  exact (override_of_accepted hcolumns' hsort).trans (by rw [hagain])

/-! ## Runs of overrides -/

/-- The entity after some attempts to override it, of which each may fail. -/
def overrideAll (e : Entity) (os : List Override) : Entity :=
  os.foldl (fun e o => (e.override o).entity) e

theorem overrideAll_invariant {P : Entity → Prop}
    (hstep : ∀ e o, P e → P (e.override o).entity) {e : Entity} (h : P e) (os : List Override) :
    P (e.overrideAll os) := by
  induction os generalizing e with
  | nil => exact h
  | cons o os ih => exact ih (hstep e o h)

theorem sameFrame_overrideAll (e : Entity) (os : List Override) :
    SameFrame e (e.overrideAll os) :=
  overrideAll_invariant (P := SameFrame e) (fun _ o h => h.trans (sameFrame_override _ o))
    ⟨rfl, rfl, rfl⟩ os

theorem displayable_overrideAll (e : Entity) (os : List Override) (name : ColumnName) :
    (e.overrideAll os).Displayable name ↔ e.Displayable name :=
  overrideAll_invariant (P := fun e' => e'.Displayable name ↔ e.Displayable name)
    (fun e' o h => (displayable_override e' o name).trans h) Iff.rfl os

theorem WellFormed.overrideAll {e : Entity} (h : e.WellFormed) (os : List Override) :
    (e.overrideAll os).WellFormed :=
  overrideAll_invariant (P := WellFormed) (fun _ o h => h.override o) h os

/-- Whatever overrides are tried on an entity that a declaration gives, accepted or not, the
entity stays well-formed. It keeps its columns, the ones to sort by and the ones that may be
shown, the request for its defaults is accepted, and an accepted override is settled by one
application. -/
theorem overrideAll_keeps {d : Declaration} {e₀ : Entity} (h : ofDeclaration d = .ok e₀)
    (os : List Override) :
    let e := e₀.overrideAll os
    (∀ name, e.Displayable name ∨ e.Sortable name →
      ∃ c, e.column? name = some c ∧ c.name = name) ∧
    (∀ c ∈ e.columns, e.column? c.name = some c) ∧
    e.defaults ≠ [] ∧
    (∀ name ∈ e.optional, name ∉ e.defaults) ∧
    (∀ name, e.Displayable name ↔ name ∈ (d.defaults ++ d.optional).map ColumnName.ofText) ∧
    (e.columns = e₀.columns ∧ e.sortable = e₀.sortable) ∧
    (∀ name, e.defaultSort = some name → e.Sortable name) ∧
    e.select e.defaultSort [] = .ok ⟨e.kind, e.defaults, e.defaultSort⟩ ∧
    ∀ o, (e.override o).error = none → (e.override o).entity.override o = e.override o := by
  intro e
  have hbuilt := builtFrom_of_ofDeclaration h
  have hformed : e.WellFormed := hbuilt.wellFormed.overrideAll os
  obtain ⟨-, hcolumns, hsortable⟩ : SameFrame e₀ e := sameFrame_overrideAll e₀ os
  refine ⟨?_, fun c hc => hformed.column?_of_mem hc, hformed.defaults_ne_nil, hformed.not_both,
    ?_, ⟨hcolumns, hsortable⟩, hformed.defaultSort_sortable, ?_, fun o ho => override_again ho⟩
  · intro name hname
    have hregistered : name ∈ e.columns.map (·.name) :=
      hname.elim (hformed.displayable_registered name) (hformed.sortable_registered name)
    obtain ⟨c, hc, rfl⟩ := List.mem_map.mp hregistered
    exact ⟨c, hformed.column?_of_mem hc, rfl⟩
  · intro name
    rw [List.map_append, List.mem_append]
    exact (displayable_overrideAll e₀ os name).trans (hbuilt.displayable_iff name)
  · refine select_eq_ok_iff.mpr ⟨?_, hformed.defaultSort_sortable, rfl⟩
    intro name hname
    cases hname

/-- Users, after an attempt that fails half-way and one that is accepted. -/
theorem overrideAll_keeps_users :
    let os : List Override := [
      ⟨some [.ofText "email"], some "status"⟩, ⟨some [.ofText "username", .ofText "ID"], some "id"⟩]
    ∃ e₀, ofDeclaration Catalogue.user = .ok e₀ ∧
      (e₀.overrideAll os).Displayable (.ofText "status") ∧
      (e₀.overrideAll os).select (e₀.overrideAll os).defaultSort [] =
        .ok ⟨.user, [.ofText "username", .ofText "id"], some (.ofText "id")⟩ := by
  intro os
  obtain ⟨e₀, he₀, hkind, hdefaults, hsort⟩ : ∃ e₀, ofDeclaration Catalogue.user = .ok e₀ ∧
      (e₀.overrideAll os).kind = .user ∧
      (e₀.overrideAll os).defaults = [.ofText "username", .ofText "id"] ∧
      (e₀.overrideAll os).defaultSort = some (.ofText "id") :=
    exists_ok_of_any (by decide +kernel)
  obtain ⟨-, -, -, -, hshown, -, -, hselect, -⟩ := overrideAll_keeps he₀ os
  refine ⟨e₀, he₀, (hshown (.ofText "status")).mpr (by decide +kernel), ?_⟩
  rw [hselect, hkind, hdefaults, hsort]

/-! ## Attempts that fail -/

theorem overridden_columnsOnly_eq_self_iff {e : Entity} (h : e.WellFormed) {o : Override} :
    e.overridden o.columnsOnly = e ↔
      ∀ wanted, o.defaultColumns = some wanted → distinct wanted = e.defaults := by
  constructor
  · intro hsame wanted hwanted
    simpa [overridden, Override.columnsOnly, hwanted] using congrArg Entity.defaults hsame
  · intro hsame
    cases hwanted : o.defaultColumns with
    | none => simp [overridden, Override.columnsOnly, hwanted]
    | some wanted =>
        have hoptional : (e.defaults ++ e.optional).filter (· ∉ e.defaults) = e.optional := by
          rw [List.filter_append, List.filter_eq_nil_iff.mpr (by simp), List.nil_append,
            List.filter_eq_self]
          simpa using h.not_both
        simp only [overridden, Override.columnsOnly, hwanted, Option.elim_some, Option.elim_none,
          hsame wanted hwanted, hoptional]

theorem entity_override_of_error {e : Entity} {o : Override} {err : EntityError}
    (h : (e.override o).error = some err) :
    (¬ e.AcceptsColumns o ∧ (e.override o).entity = e) ∨
      (e.AcceptsColumns o ∧ (e.override o).entity = e.overridden o.columnsOnly) := by
  by_cases hcolumns : e.AcceptsColumns o
  · have hsort : ¬ e.AcceptsSort o := by
      intro hsort
      have hnone : (e.override o).error = none :=
        override_error_eq_none_iff.mpr ⟨hcolumns, hsort⟩
      cases hnone.symm.trans h
    obtain ⟨err', herr'⟩ := override_of_refused_sort hcolumns hsort
    exact .inr ⟨hcolumns, congrArg Attempt.entity herr'⟩
  · obtain ⟨err', herr'⟩ := override_of_refused_columns hcolumns
    exact .inl ⟨hcolumns, congrArg Attempt.entity herr'⟩

/-- A failed attempt leaves the columns, the ones to sort by and the default order alone, and
the default columns too unless it asks for others that are acceptable. Those it leaves in
force. -/
theorem override_failed {d : Declaration} {e₀ : Entity} (h : ofDeclaration d = .ok e₀)
    (os : List Override) {o : Override} {err : EntityError}
    (hfailed : ((e₀.overrideAll os).override o).error = some err) :
    let e := e₀.overrideAll os
    let left := (e.override o).entity
    left.kind = e.kind ∧ left.columns = e.columns ∧ left.sortable = e.sortable ∧
    left.defaultSort = e.defaultSort ∧
    (left = e ↔ ∀ wanted, o.defaultColumns = some wanted → wanted ≠ [] →
      (∀ name ∈ wanted, e.Displayable name) → distinct wanted = e.defaults) ∧
    ∀ wanted, o.defaultColumns = some wanted → wanted ≠ [] →
      (∀ name ∈ wanted, e.Displayable name) →
        left.defaults = distinct wanted ∧
          left.optional = (e.defaults ++ e.optional).filter (· ∉ distinct wanted) := by
  intro e left
  have hformed : e.WellFormed := (builtFrom_of_ofDeclaration h).wellFormed.overrideAll os
  rcases entity_override_of_error hfailed with ⟨hrefused, hleft⟩ | ⟨haccepted, hleft⟩
  · -- The attempt failed at the columns, so there are none that it accepts.
    have hnone : ∀ wanted, o.defaultColumns = some wanted → wanted ≠ [] →
        ¬ ∀ name ∈ wanted, e.Displayable name := by
      intro wanted hwanted hne hshown
      exact hrefused ((acceptsColumns_iff_of_some hwanted).mpr ⟨hne, hshown⟩)
    have hsame : left = e := hleft
    rw [hsame]
    refine ⟨rfl, rfl, rfl, rfl, ⟨?_, fun _ => rfl⟩, ?_⟩
    · intro _ wanted hwanted hne hshown
      exact absurd hshown (hnone wanted hwanted hne)
    · intro wanted hwanted hne hshown
      exact absurd hshown (hnone wanted hwanted hne)
  · have hcolumns : left = e.overridden o.columnsOnly := hleft
    rw [hcolumns]
    refine ⟨rfl, rfl, rfl, rfl, ?_, ?_⟩
    · rw [overridden_columnsOnly_eq_self_iff hformed]
      constructor
      · exact fun hsame wanted hwanted _ _ => hsame wanted hwanted
      · intro hsame wanted hwanted
        obtain ⟨hne, hshown⟩ := haccepted wanted hwanted
        exact hsame wanted hwanted hne hshown
    · intro wanted hwanted _ _
      simp [overridden, Override.columnsOnly, hwanted]

/-- Users cannot be sorted by their status; nothing else was asked for. -/
theorem override_failed_users_sort :
    let o : Override := ⟨none, some "status"⟩
    ∃ e₀ err, ofDeclaration Catalogue.user = .ok e₀ ∧ (e₀.override o).error = some err ∧
      (e₀.override o).entity = e₀ := by
  intro o
  obtain ⟨e₀, he₀, herr⟩ : ∃ e₀, ofDeclaration Catalogue.user = .ok e₀ ∧
      (e₀.override o).error = some ⟨.user, .unsortableDefault "status"⟩ :=
    exists_ok_of_any (by decide +kernel)
  obtain ⟨-, -, -, -, hsame, -⟩ := override_failed he₀ [] herr
  exact ⟨e₀, _, he₀, herr, hsame.mpr fun _ hwanted => nomatch hwanted⟩

/-- Default columns come into force though the default order beside them is refused. -/
theorem override_not_atomic :
    ¬ ∀ (d : Declaration) (e₀ : Entity) (os : List Override) (o : Override) (err : EntityError),
      ofDeclaration d = .ok e₀ → ((e₀.overrideAll os).override o).error = some err →
        ((e₀.overrideAll os).override o).entity = e₀.overrideAll os := by
  intro hatomic
  obtain ⟨e₀, he₀, herr, hdefaults⟩ : ∃ e₀, ofDeclaration Catalogue.user = .ok e₀ ∧
      (e₀.override ⟨some [.ofText "email"], some "status"⟩).error =
        some ⟨.user, .unsortableDefault "status"⟩ ∧
      (e₀.override ⟨some [.ofText "email"], some "status"⟩).entity.defaults ≠ e₀.defaults :=
    exists_ok_of_any (by decide +kernel)
  exact hdefaults (congrArg defaults (hatomic Catalogue.user e₀ [] _ _ he₀ herr))

end Entity

end RecordListing
