import RecordListing.Proofs.Declarations
import RecordListing.Proofs.Overriding
import RecordListing.Row

namespace RecordListing

/-!
# Selected columns

Which requests are accepted, which of their faults is reported, and when no column of what is
selected is repeated: always, unless the default columns are shown as they were declared and
the declaration repeats one.
-/

namespace Entity

/-! ## Decisions -/

theorem select_eq_error_iff {e : Entity} {key : SortKey} {requested : List ColumnName}
    {err : RequestError} :
    e.select key requested = .error err ↔
      (∃ bad, IsFirst (¬ e.Displayable ·) requested bad ∧ err = .unsupportedColumn bad.text) ∨
        (∀ name ∈ requested, e.Displayable name) ∧
          ∃ bad, key = some bad ∧ ¬ e.Sortable bad ∧ err = .unsupportedSortKey bad.text := by
  simp only [isFirst_iff_find?, ← find?_not_displayable_eq_none_iff, select]
  cases requested.find? fun name => ¬ e.Displayable name with
  | some bad => simp [@eq_comm _ err]
  | none =>
      cases key with
      | none => simp
      | some name =>
          by_cases hname : e.Sortable name
          · simp [Option.filter_some, hname]
          · simp [Option.filter_some, hname, @eq_comm _ err]

/-- The columns of a selection are the default ones, or those asked for, each once and where it
is first asked for. -/
theorem select_columns {e : Entity} {key : SortKey} {requested : List ColumnName} {s : Selection}
    (h : e.select key requested = .ok s) :
    (requested = [] → s.columns = e.defaults) ∧
      (requested ≠ [] → s.columns = distinct requested) := by
  obtain ⟨-, -, rfl⟩ := select_eq_ok_iff.mp h
  constructor
  · rintro rfl
    rfl
  · intro hne
    rw [if_neg (by simpa using hne)]

/-- A request is accepted just if its columns may be shown and its order is none or one to sort
by; of the columns that may not the first is reported, and the order only if there is none. An
accepted request gets the default columns in their order if it asks for none, and else the
columns it asks for, each once and in the order in which they are first asked for. -/
theorem select_decides (e : Entity) (key : SortKey) (requested : List ColumnName) :
    ((∃ s, e.select key requested = .ok s) ↔
      (∀ name ∈ requested, e.Displayable name) ∧ ∀ name, key = some name → e.Sortable name) ∧
    (∀ err, e.select key requested = .error err ↔
      (∃ bad, IsFirst (¬ e.Displayable ·) requested bad ∧ err = .unsupportedColumn bad.text) ∨
        (∀ name ∈ requested, e.Displayable name) ∧
          ∃ bad, key = some bad ∧ ¬ e.Sortable bad ∧ err = .unsupportedSortKey bad.text) ∧
    ∀ s, e.select key requested = .ok s →
      s.kind = e.kind ∧ s.sortKey = key ∧ (requested = [] → s.columns = e.defaults) ∧
      (requested ≠ [] → (∀ name, name ∈ s.columns ↔ name ∈ requested) ∧ s.columns.Nodup ∧
        s.columns.Pairwise fun a b => requested.idxOf a < requested.idxOf b) := by
  refine ⟨⟨?_, ?_⟩, fun err => select_eq_error_iff, fun s hs => ?_⟩
  · rintro ⟨s, hs⟩
    obtain ⟨hcolumns, hkey, -⟩ := select_eq_ok_iff.mp hs
    exact ⟨hcolumns, hkey⟩
  · rintro ⟨hcolumns, hkey⟩
    exact ⟨_, select_eq_ok_iff.mpr ⟨hcolumns, hkey, rfl⟩⟩
  · obtain ⟨hnone, hsome⟩ := select_columns hs
    obtain ⟨-, -, hselection⟩ := select_eq_ok_iff.mp hs
    refine ⟨congrArg Selection.kind hselection, congrArg Selection.sortKey hselection, hnone, ?_⟩
    intro hne
    rw [hsome hne]
    exact ⟨fun name => mem_distinct, nodup_distinct requested, pairwise_idxOf_distinct requested⟩

/-- Volumes may be sorted by an address that may not be shown. -/
theorem select_decides_volumes :
    let requested : List ColumnName := [.ofText "username", .ofText "ID", .ofText "username"]
    let address := ColumnName.ofText "mount_addr"
    ∃ e, ofDeclaration Catalogue.volume = .ok e ∧
      e.select (some address) (requested ++ [address, .ofText "nope"]) =
        .error (.unsupportedColumn "mount_addr") ∧
      ∃ s, e.select (some address) requested = .ok s ∧ s.columns.Nodup ∧
        s.columns.Pairwise fun a b => requested.idxOf a < requested.idxOf b := by
  intro requested address
  obtain ⟨e, he⟩ := exists_ofDeclaration_catalogue .volume
  have hbuilt := builtFrom_of_ofDeclaration he
  have hshown : ∀ name ∈ requested, e.Displayable name := by
    simp only [hbuilt.displayable_iff]
    decide
  have haddress : ¬ e.Displayable address := by
    rw [hbuilt.displayable_iff]
    decide
  have hsortable : e.Sortable address := by
    rw [Sortable, hbuilt.gives.sortable]
    decide
  have hkey : ∀ name, some address = some name → e.Sortable name := by
    rintro name ⟨⟩
    exact hsortable
  refine ⟨e, he, ?_, ?_⟩
  · refine ((select_decides e _ _).2.1 _).mpr (.inl ⟨address, ?_, rfl⟩)
    exact ⟨requested, _, rfl, haddress, fun name hname => not_not_intro (hshown name hname)⟩
  · obtain ⟨haccepted, -, hselected⟩ := select_decides e (some address) requested
    obtain ⟨s, hs⟩ := haccepted.mpr ⟨hshown, hkey⟩
    obtain ⟨-, -, -, hsome⟩ := hselected s hs
    exact ⟨s, hs, (hsome (by decide)).2⟩

/-! ## Repeated columns -/

/-- An attempt that has acceptable columns leaves them, also when it fails at the order. -/
theorem override_defaults {e : Entity} {o : Override} (h : e.AcceptsColumns o) :
    (e.override o).entity.defaults = o.defaultColumns.elim e.defaults distinct := by
  by_cases hsort : e.AcceptsSort o
  · rw [override_of_accepted h hsort, overridden_defaults]
  · obtain ⟨err, herr⟩ := override_of_refused_sort h hsort
    rw [herr]
    rfl

theorem override_acceptsColumns_iff (e : Entity) (o o' : Override) :
    (e.override o).entity.AcceptsColumns o' ↔ e.AcceptsColumns o' := by
  simp only [AcceptsColumns, displayable_override]

theorem nodup_defaults_override_iff (e : Entity) (o : Override) :
    (e.override o).entity.defaults.Nodup ↔
      e.defaults.Nodup ∨ o.defaultColumns ≠ none ∧ e.AcceptsColumns o := by
  by_cases hcolumns : e.AcceptsColumns o
  · rw [override_defaults hcolumns]
    cases o.defaultColumns with
    | none => simp
    | some wanted => simp [hcolumns, nodup_distinct]
  · obtain ⟨err, herr⟩ := override_of_refused_columns hcolumns
    simp [herr, hcolumns]

theorem nodup_defaults_overrideAll_iff (e : Entity) (os : List Override) :
    (e.overrideAll os).defaults.Nodup ↔
      e.defaults.Nodup ∨ ∃ o ∈ os, o.defaultColumns ≠ none ∧ e.AcceptsColumns o := by
  induction os generalizing e with
  | nil => simp [overrideAll]
  | cons o os ih =>
      have hcons : e.overrideAll (o :: os) = (e.override o).entity.overrideAll os := rfl
      rw [hcons, ih, nodup_defaults_override_iff, List.exists_mem_cons_iff, or_assoc]
      simp only [override_acceptsColumns_iff]

theorem select_nodup_iff {e : Entity} {key : SortKey} {requested : List ColumnName}
    {s : Selection} (h : e.select key requested = .ok s) :
    s.columns.Nodup ↔ requested ≠ [] ∨ e.defaults.Nodup := by
  obtain ⟨hnone, hsome⟩ := select_columns h
  by_cases hrequested : requested = []
  · simp [hnone hrequested, hrequested]
  · simp [hsome hrequested, hrequested, nodup_distinct]

end Entity

namespace Row

theorem project_columns (e : Entity) (columns : List ColumnName) (record : Json) :
    (project e columns record).cells.map (·.1) = columns := by
  simp [project, Function.comp_def]

/-- The keys of the object of a row. -/
theorem toJson_eq_obj (row : Row) :
    ∃ members, row.toJson = .obj members ∧
      members.map (·.1) = (row.cells.map (·.1)).map ColumnName.text :=
  ⟨_, rfl, by simp [Function.comp_def]⟩

end Row

namespace Entity

/-- Whatever overrides are tried on an entity that a declaration gives, the columns of an accepted
request are distinct if it asks for some, if the declared defaults are distinct, or if one of the
overrides has acceptable columns, and else they are not. A row has just these columns, and the
keys of its object are distinct just if they are. -/
theorem select_distinct_iff {d : Declaration} {e₀ : Entity} (h : ofDeclaration d = .ok e₀)
    (os : List Override) {key : SortKey} {requested : List ColumnName} {s : Selection}
    (hs : (e₀.overrideAll os).select key requested = .ok s) :
    (s.columns.Nodup ↔ requested ≠ [] ∨ (d.defaults.map ColumnName.ofText).Nodup ∨
      ∃ o ∈ os, ∃ wanted, o.defaultColumns = some wanted ∧ wanted ≠ [] ∧
        ∀ name ∈ wanted, e₀.Displayable name) ∧
    ∀ record, ∃ members,
      (Row.project (e₀.overrideAll os) s.columns record).cells.map (·.1) = s.columns ∧
      (Row.project (e₀.overrideAll os) s.columns record).toJson = .obj members ∧
      ((members.map (·.1)).Nodup ↔ s.columns.Nodup) := by
  have hdefaults : e₀.defaults = d.defaults.map .ofText :=
    (resolve_eq_ok (builtFrom_of_ofDeclaration h).defaults).1
  have haccepts (o : Override) : o.defaultColumns ≠ none ∧ e₀.AcceptsColumns o ↔
      ∃ wanted, o.defaultColumns = some wanted ∧ wanted ≠ [] ∧
        ∀ name ∈ wanted, e₀.Displayable name := by
    cases hwanted : o.defaultColumns with
    | none => simp
    | some wanted => simp [acceptsColumns_iff_of_some hwanted]
  constructor
  · rw [select_nodup_iff hs, nodup_defaults_overrideAll_iff, hdefaults]
    simp only [haccepts]
  · intro record
    obtain ⟨members, hmembers, hkeys⟩ :=
      Row.toJson_eq_obj (Row.project (e₀.overrideAll os) s.columns record)
    rw [Row.project_columns] at hkeys
    refine ⟨members, Row.project_columns _ _ _, hmembers, ?_⟩
    rw [hkeys, List.nodup_map_iff fun a b => ColumnName.text_injective]

/-- A declaration that names a default column in two spellings. -/
def twiceDeclared : Declaration where
  kind := .user
  columns := [⟨"id", "id", .integer, "ID", .raw⟩]
  defaults := ["id", "ID"]
  optional := []
  sortable := []
  defaultSort := none

/-- An attempt that fails at the order repairs the repeated default. -/
theorem select_distinct_iff_repaired :
    let o : Override := ⟨some [.ofText "iD", .ofText "id"], some "id"⟩
    ∃ e₀ s, ofDeclaration twiceDeclared = .ok e₀ ∧ (e₀.override o).error ≠ none ∧
      (e₀.overrideAll [o]).select none [] = .ok s ∧ s.columns.Nodup := by
  intro o
  obtain ⟨e₀, he₀, hshown, hfailed⟩ : ∃ e₀, ofDeclaration twiceDeclared = .ok e₀ ∧
      (∀ name ∈ [ColumnName.ofText "iD", .ofText "id"], e₀.Displayable name) ∧
        (e₀.override o).error ≠ none :=
    exists_ok_of_any (by decide)
  have hselect : (e₀.overrideAll [o]).select none [] = .ok _ :=
    select_eq_ok_iff.mpr ⟨by simp, by simp, rfl⟩
  refine ⟨e₀, _, he₀, hfailed, hselect, (select_distinct_iff he₀ [o] hselect).1.mpr ?_⟩
  exact .inr (.inr ⟨o, List.mem_singleton_self o, _, rfl, by simp, hshown⟩)

/-- As it is declared, the column is selected twice. -/
theorem select_repeats_declared_default :
    ¬ ∀ (d : Declaration) (e₀ : Entity) (os : List Override) (key : SortKey)
      (requested : List ColumnName) (s : Selection), ofDeclaration d = .ok e₀ →
        (e₀.overrideAll os).select key requested = .ok s → s.columns.Nodup := by
  intro hdistinct
  obtain ⟨e₀, he₀, hdefaults⟩ : ∃ e₀, ofDeclaration twiceDeclared = .ok e₀ ∧
      ¬ e₀.defaults.Nodup :=
    exists_ok_of_any (by decide)
  have hselect : (e₀.overrideAll []).select none [] = .ok ⟨e₀.kind, e₀.defaults, none⟩ :=
    select_eq_ok_iff.mpr ⟨by simp, by simp, rfl⟩
  exact hdefaults (hdistinct _ e₀ [] _ _ _ he₀ hselect)

end Entity

end RecordListing
