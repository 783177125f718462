import Mathlib.Data.List.Nodup
import RecordListing.Proofs.Registration
import RecordListing.Registry

namespace RecordListing

/-!
# Built entities

What building an entity settles for good: its kind, its columns and by which of
them records may be ordered. Overrides change none of these.
-/

/-- What is computed to hold of a result holds of it. -/
theorem exists_ok_of_any {ε α : Type} {x : Except ε α} {P : α → Prop} [DecidablePred P]
    (h : x.toOption.any (P ·) = true) : ∃ a, x = .ok a ∧ P a := by
  cases x with
  | error err => simp [Except.toOption] at h
  | ok a => exact ⟨a, rfl, by simpa [Except.toOption] using h⟩

namespace Entity

theorem column?_isSome {e : Entity} {name : ColumnName} (h : name ∈ e.columns.map (·.name)) :
    (e.column? name).isSome := by
  obtain ⟨c, hc, rfl⟩ := List.mem_map.mp h
  exact List.find?_isSome.mpr ⟨c, hc, by simp⟩

def SortableRegistered (e : Entity) : Prop := ∀ name ∈ e.sortable, name ∈ e.columns.map (·.name)

/-- The same kind, columns and columns to order by. -/
def SameFrame (e e' : Entity) : Prop :=
  e'.kind = e.kind ∧ e'.columns = e.columns ∧ e'.sortable = e.sortable

theorem SameFrame.trans {e₁ e₂ e₃ : Entity} (h : SameFrame e₁ e₂) (h' : SameFrame e₂ e₃) :
    SameFrame e₁ e₃ :=
  ⟨h'.1.trans h.1, h'.2.1.trans h.2.1, h'.2.2.trans h.2.2⟩

theorem find?_not_displayable_eq_none_iff {e : Entity} {names : List ColumnName} :
    (names.find? fun name => ¬ e.Displayable name) = none ↔
      ∀ name ∈ names, e.Displayable name := by
  simp [List.find?_eq_none]

theorem setDefaultSort_eq_ok_iff {e e' : Entity} {key : SortKey} :
    e.setDefaultSort key = .ok e' ↔
      (∀ name, key = some name → e.Sortable name) ∧ e' = { e with defaultSort := key } := by
  cases key with
  | none => simp [setDefaultSort, eq_comm]
  | some name =>
      by_cases hname : e.Sortable name
      · simp [setDefaultSort, hname, eq_comm]
      · simp [setDefaultSort, hname]

theorem setDefaults_eq_ok_iff {e e' : Entity} {wanted : List ColumnName} :
    e.setDefaults wanted = .ok e' ↔
      wanted ≠ [] ∧ (∀ name ∈ wanted, e.Displayable name) ∧
        e' = { e with
          defaults := distinct wanted
          optional := (e.defaults ++ e.optional).filter (· ∉ distinct wanted) } := by
  unfold setDefaults
  constructor
  · intro h
    split at h
    · cases h
    · rename_i hempty
      split at h
      · cases h
      · rename_i hfind
        cases h
        exact ⟨by simpa using hempty, find?_not_displayable_eq_none_iff.mp hfind, rfl⟩
  · rintro ⟨hempty, hshown, rfl⟩
    rw [find?_not_displayable_eq_none_iff.mpr hshown, if_neg (by simpa using hempty)]

theorem sameFrame_setDefaultSort {e e' : Entity} {key : SortKey}
    (h : e.setDefaultSort key = .ok e') : SameFrame e e' := by
  obtain ⟨-, rfl⟩ := setDefaultSort_eq_ok_iff.mp h
  exact ⟨rfl, rfl, rfl⟩

theorem sameFrame_setDefaults {e e' : Entity} {wanted : List ColumnName}
    (h : e.setDefaults wanted = .ok e') : SameFrame e e' := by
  obtain ⟨-, -, rfl⟩ := setDefaults_eq_ok_iff.mp h
  exact ⟨rfl, rfl, rfl⟩

/-- A part of an override that is not given changes nothing. -/
theorem sameFrame_elim {α : Type} {given : Option α} {e e' : Entity}
    {change : α → Except EntityError Entity} (hchange : ∀ a, change a = .ok e' → SameFrame e e')
    (h : given.elim (.ok e) change = .ok e') : SameFrame e e' := by
  cases given with
  | none =>
      cases h
      exact ⟨rfl, rfl, rfl⟩
  | some a => exact hchange a h

/-- An override, also one that fails half-way, leaves the frame of an entity. -/
theorem sameFrame_override (e : Entity) (o : Override) : SameFrame e (e.override o).entity := by
  unfold override
  split
  · exact ⟨rfl, rfl, rfl⟩
  · rename_i e' hcolumns
    have hfirst : SameFrame e e' := sameFrame_elim (fun _ => sameFrame_setDefaults) hcolumns
    split
    · exact hfirst
    · rename_i e'' hsort
      exact hfirst.trans (sameFrame_elim (fun _ => sameFrame_setDefaultSort) hsort)

/-- Every name that is listed is registered, there is a column to show by default, no
column is listed twice as to be shown, and the default order is one to sort by. -/
structure WellFormed (e : Entity) : Prop where
  columns_nodup : (e.columns.map (·.name)).Nodup
  displayable_registered : ∀ name, e.Displayable name → name ∈ e.columns.map (·.name)
  sortable_registered : e.SortableRegistered
  defaults_ne_nil : e.defaults ≠ []
  not_both : ∀ name ∈ e.optional, name ∉ e.defaults
  defaultSort_sortable : ∀ name, e.defaultSort = some name → e.Sortable name

theorem WellFormed.column?_of_mem {e : Entity} (h : e.WellFormed) {c : Column}
    (hc : c ∈ e.columns) : e.column? c.name = some c := by
  obtain ⟨c', hc'⟩ := Option.isSome_iff_exists.mp (column?_isSome (List.mem_map_of_mem hc))
  have hname : c'.name = c.name := by simpa using List.find?_some hc'
  rw [hc', List.inj_on_of_nodup_map h.columns_nodup (List.mem_of_find?_eq_some hc') hc hname]

/-- What stands behind an entity that a declaration gives. -/
structure BuiltFrom (d : Declaration) (e : Entity) : Prop where
  kind : e.kind = d.kind
  columns : register d.kind [] d.columns = .ok e.columns
  defaults : resolve d.kind e.columns .default d.defaults = .ok e.defaults
  optional : resolve d.kind e.columns .optional d.optional = .ok e.optional
  sortable : resolve d.kind e.columns .sortable d.sortable = .ok e.sortable
  defaults_ne_nil : e.defaults ≠ []
  not_both : ∀ name ∈ e.optional, name ∉ e.defaults
  defaultSort : e.defaultSort = d.defaultSort.elim none SortKey.ofText
  defaultSort_sortable : ∀ name, e.defaultSort = some name → e.Sortable name

theorem builtFrom_of_ofDeclaration {d : Declaration} {e : Entity} (h : ofDeclaration d = .ok e) :
    BuiltFrom d e := by
  unfold ofDeclaration at h
  simp only [bind_eq_ok_iff] at h
  obtain ⟨columns, hcolumns, defaults, hdefaults, optional, hoptional, sortable, hsortable, h⟩ := h
  split at h
  · cases h
  · rename_i hempty
    split at h
    · cases h
    · rename_i hboth
      have hne : defaults ≠ [] := by simpa using hempty
      have hnot : ∀ name ∈ optional, name ∉ defaults := by
        intro name hname
        simpa using List.find?_eq_none.mp hboth name hname
      split at h
      · rename_i hsort
        obtain rfl := Except.ok.inj h
        refine ⟨rfl, hcolumns, hdefaults, hoptional, hsortable, hne, hnot, by rw [hsort]; rfl, ?_⟩
        intro name hname
        cases hname
      · rename_i text hsort
        have hkey : d.defaultSort.elim none SortKey.ofText = SortKey.ofText text := by
          rw [hsort, Option.elim_some]
        generalize SortKey.ofText text = key at h hkey
        obtain ⟨hallowed, rfl⟩ := setDefaultSort_eq_ok_iff.mp h
        exact ⟨rfl, hcolumns, hdefaults, hoptional, hsortable, hne, hnot, hkey.symm, hallowed⟩

theorem BuiltFrom.displayable_iff {d : Declaration} {e : Entity} (h : BuiltFrom d e)
    (name : ColumnName) :
    e.Displayable name ↔
      name ∈ d.defaults.map ColumnName.ofText ∨ name ∈ d.optional.map ColumnName.ofText := by
  rw [Displayable, (resolve_eq_ok h.defaults).1, (resolve_eq_ok h.optional).1]

theorem BuiltFrom.wellFormed {d : Declaration} {e : Entity} (h : BuiltFrom d e) :
    e.WellFormed where
  columns_nodup := nodup_names_of_register h.columns
  displayable_registered name hname :=
    hname.elim ((resolve_eq_ok h.defaults).2 name) ((resolve_eq_ok h.optional).2 name)
  sortable_registered := (resolve_eq_ok h.sortable).2
  defaults_ne_nil := h.defaults_ne_nil
  not_both := h.not_both
  defaultSort_sortable := h.defaultSort_sortable

theorem ofDeclaration_eq_ok {d : Declaration} {e : Entity} (h : ofDeclaration d = .ok e) :
    e.kind = d.kind ∧ e.SortableRegistered := by
  have hbuilt := builtFrom_of_ofDeclaration h
  exact ⟨hbuilt.kind, (resolve_eq_ok hbuilt.sortable).2⟩

end Entity

theorem Catalogue.isOk_ofDeclaration (kind : Kind) :
    (Entity.ofDeclaration (declaration kind)).isOk = true := by
  cases kind <;> decide +kernel

theorem Attempt.toExcept_eq_ok_iff {a : Attempt} {e : Entity} :
    a.toExcept = .ok e ↔ a.error = none ∧ e = a.entity := by
  obtain ⟨entity, _ | err⟩ := a <;> simp [toExcept, eq_comm]

theorem Attempt.toExcept_eq_error_iff {a : Attempt} {err : EntityError} :
    a.toExcept = .error err ↔ a.error = some err := by
  obtain ⟨entity, _ | err'⟩ := a <;> simp [toExcept]

namespace Registry

/-! ## One kind -/

theorem configured_of_declared {kind : Kind} {base : Entity}
    (hbase : Entity.ofDeclaration (Catalogue.declaration kind) = .ok base) (o : Option Override) :
    configured kind o = o.elim (.ok base) fun o => (base.override o).toExcept := by
  simp only [configured, hbase]

theorem configured_eq_ok_iff {kind : Kind} {o : Option Override} {e : Entity} :
    configured kind o = .ok e ↔
      ∃ base, Entity.ofDeclaration (Catalogue.declaration kind) = .ok base ∧
        (∀ o', o = some o' → (base.override o').error = none) ∧
          e = o.elim base fun o' => (base.override o').entity := by
  cases hbase : Entity.ofDeclaration (Catalogue.declaration kind) with
  | error err => simp [configured, hbase]
  | ok base =>
      rw [configured_of_declared hbase]
      cases o with
      | none => simp [eq_comm]
      | some o' => simp [Attempt.toExcept_eq_ok_iff]

theorem exists_sameFrame {kind : Kind} {o : Option Override} {e : Entity}
    (h : configured kind o = .ok e) :
    ∃ base, Entity.ofDeclaration (Catalogue.declaration kind) = .ok base ∧
      Entity.SameFrame base e := by
  obtain ⟨base, hbase, -, rfl⟩ := configured_eq_ok_iff.mp h
  refine ⟨base, hbase, ?_⟩
  cases o with
  | none => exact ⟨rfl, rfl, rfl⟩
  | some o' => exact Entity.sameFrame_override base o'

theorem configured_eq_ok {kind : Kind} {o : Option Override} {e : Entity}
    (h : configured kind o = .ok e) : e.kind = kind ∧ e.SortableRegistered := by
  obtain ⟨base, hbase, hkind', hcolumns', hsortable'⟩ := exists_sameFrame h
  obtain ⟨hkind, hsortable⟩ := Entity.ofDeclaration_eq_ok hbase
  refine ⟨hkind'.trans (hkind.trans ?_), ?_⟩
  · cases kind <;> rfl
  · unfold Entity.SortableRegistered
    rw [hsortable', hcolumns']
    exact hsortable

/-! ## All kinds -/

/-- The entities in the order of kinds. -/
def entities (r : Registry) : List Entity := Kind.all.map r.entity

/-- A registry is made kind by kind. -/
theorem entities_withOverrides (overrides : Kind → Option Override) :
    entities <$> withOverrides overrides =
      Kind.all.mapM fun kind => configured kind (overrides kind) := by
  simp only [withOverrides, Kind.all, List.mapM_cons, List.mapM_nil, map_bind, bind_assoc,
    pure_bind, map_pure]
  rfl

theorem withOverrides_eq_ok {overrides : Kind → Option Override} {r : Registry}
    (h : withOverrides overrides = .ok r) (kind : Kind) :
    configured kind (overrides kind) = .ok (r.entity kind) := by
  have hentities := entities_withOverrides overrides
  rw [h] at hentities
  have hall := mapM_eq_ok_iff.mp hentities.symm
  rw [entities, List.forall₂_map_right_iff, List.forall₂_same] at hall
  exact hall kind (Kind.mem_all kind)

theorem withOverrides_eq_error_iff {overrides : Kind → Option Override} {err : EntityError} :
    withOverrides overrides = .error err ↔
      ∃ kind, IsFirst (fun kind => ∃ err, configured kind (overrides kind) = .error err)
          Kind.all kind ∧ configured kind (overrides kind) = .error err := by
  rw [← mapM_eq_error_iff, ← entities_withOverrides]
  cases withOverrides overrides <;> simp [Functor.map, Except.map]

theorem kind_entity {overrides : Kind → Option Override} {r : Registry}
    (h : withOverrides overrides = .ok r) (kind : Kind) : (r.entity kind).kind = kind :=
  (configured_eq_ok (withOverrides_eq_ok h kind)).1

theorem sortableRegistered_entity {overrides : Kind → Option Override} {r : Registry}
    (h : withOverrides overrides = .ok r) (kind : Kind) : (r.entity kind).SortableRegistered :=
  (configured_eq_ok (withOverrides_eq_ok h kind)).2

theorem exists_withOverrides {overrides : Kind → Option Override}
    (h : ∀ kind, (configured kind (overrides kind)).isOk = true) :
    ∃ r, withOverrides overrides = .ok r := by
  cases hr : withOverrides overrides with
  | ok r => exact ⟨r, rfl⟩
  | error err =>
      obtain ⟨kind, -, herr⟩ := withOverrides_eq_error_iff.mp hr
      simpa [herr, Except.isOk, Except.toBool] using h kind

theorem isOk_configured_none (kind : Kind) : (configured kind none).isOk = true := by
  have hbuilt := Catalogue.isOk_ofDeclaration kind
  cases hdeclared : Entity.ofDeclaration (Catalogue.declaration kind) with
  | ok e =>
      rw [configured_of_declared hdeclared]
      rfl
  | error err => simp [hdeclared, Except.isOk, Except.toBool] at hbuilt

/-- Where no other kind is overridden, the one that is decides. -/
theorem exists_withOverrides_single {overrides : Kind → Option Override} {kind : Kind} {e : Entity}
    (h : configured kind (overrides kind) = .ok e)
    (hothers : ∀ other, other ≠ kind → overrides other = none) :
    ∃ r, withOverrides overrides = .ok r ∧ r.entity kind = e := by
  have hall : ∀ other, (configured other (overrides other)).isOk = true := by
    intro other
    by_cases hother : other = kind
    · rw [hother, h]
      rfl
    · rw [hothers other hother]
      exact isOk_configured_none other
  obtain ⟨r, hr⟩ := exists_withOverrides hall
  exact ⟨r, hr, Except.ok.inj ((withOverrides_eq_ok hr kind).symm.trans h)⟩

theorem exists_withOverrides_none : ∃ r, withOverrides (fun _ => none) = .ok r :=
  exists_withOverrides isOk_configured_none

theorem ofDeclaration_entity {r : Registry} (hr : withOverrides (fun _ => none) = .ok r)
    (kind : Kind) : Entity.ofDeclaration (Catalogue.declaration kind) = .ok (r.entity kind) := by
  obtain ⟨base, hbase, -, hentity⟩ := configured_eq_ok_iff.mp (withOverrides_eq_ok hr kind)
  rw [hbase, hentity, Option.elim_none]

/-- What the entity of a declaration is computed to have, it has in the registry. -/
theorem entity_of_any {r : Registry} (hr : withOverrides (fun _ => none) = .ok r) (kind : Kind)
    {P : Entity → Prop} [DecidablePred P]
    (h : (Entity.ofDeclaration (Catalogue.declaration kind)).toOption.any (P ·) = true) :
    P (r.entity kind) := by
  obtain ⟨e, he, hP⟩ := exists_ok_of_any h
  rw [ofDeclaration_entity hr kind, Except.ok.injEq] at he
  exact he ▸ hP

end Registry

end RecordListing
