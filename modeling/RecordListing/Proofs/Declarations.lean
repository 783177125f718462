import RecordListing.Proofs.Entities

namespace RecordListing

/-!
# Declarations

Which declarations give an entity, what the entity has of its declaration, and which defect is
reported of a declaration that has several: first of the columns, then of the names that are
listed, then that there is no default, that a default is also optional, and that the default
order is not one to sort by.
-/

theorem SortKey.ofText_eq_some_iff {text : String} {name : ColumnName} :
    SortKey.ofText text = some name ↔
      Text.trim text ≠ "" ∧ ColumnName.ofText (Text.trim text) = name := by
  unfold SortKey.ofText
  by_cases h : Text.trim text = "" <;> simp [h]

theorem Declaration.sortKey_eq_some_iff {d : Declaration} {name : ColumnName} :
    d.defaultSort.elim none SortKey.ofText = some name ↔
      ∃ text, d.defaultSort = some text ∧ Text.trim text ≠ "" ∧
        ColumnName.ofText (Text.trim text) = name := by
  cases d.defaultSort with
  | none => simp
  | some text => simp only [Option.elim_some, SortKey.ofText_eq_some_iff, Option.some.injEq,
      exists_eq_left']

/-! ## Validity and defects -/

namespace Declaration

/-- The names of the lists, in the order in which they are looked up. -/
def listed (d : Declaration) : List (NameList × String) :=
  d.defaults.map (NameList.default, ·) ++ d.optional.map (NameList.optional, ·) ++
    d.sortable.map (NameList.sortable, ·)

def Registered (d : Declaration) (name : String) : Prop :=
  .ofText name ∈ registeredNames d.columns

theorem forall_registered_iff {d : Declaration} :
    (∀ entry ∈ d.listed, d.Registered entry.2) ↔
      (∀ name ∈ d.defaults, d.Registered name) ∧ (∀ name ∈ d.optional, d.Registered name) ∧
        ∀ name ∈ d.sortable, d.Registered name := by
  simp only [listed, List.forall_mem_append, List.forall_mem_map, and_assoc]

theorem isFirst_unregistered_iff {d : Declaration} {list : NameList} {name : String} :
    IsFirst (fun entry => ¬ d.Registered entry.2) d.listed (list, name) ↔
      list = .default ∧ IsFirst (¬ d.Registered ·) d.defaults name ∨
      list = .optional ∧ (∀ earlier ∈ d.defaults, d.Registered earlier) ∧
        IsFirst (¬ d.Registered ·) d.optional name ∨
      list = .sortable ∧ (∀ earlier ∈ d.defaults, d.Registered earlier) ∧
        (∀ earlier ∈ d.optional, d.Registered earlier) ∧
          IsFirst (¬ d.Registered ·) d.sortable name := by
  simp only [listed, isFirst_append, isFirst_map, List.forall_mem_append, List.forall_mem_map,
    Prod.mk.injEq]
  cases list with
  | default => simp
  | optional => simp
  | sortable => simp [and_assoc]
  | overrideDefault => simp

section Gives

variable {d : Declaration} {columns : List Column}
  (hgives : List.Forall₂ ColumnDeclaration.Gives d.columns columns) {list : NameList}
  {names : List String}
include hgives

theorem resolve_of_registered (h : ∀ name ∈ names, d.Registered name) :
    resolve d.kind columns list names = .ok (names.map .ofText) :=
  resolve_eq_ok_iff.mpr ⟨by rwa [map_name_of_gives hgives], rfl⟩

theorem resolve_of_unregistered {name : String} (h : IsFirst (¬ d.Registered ·) names name) :
    resolve d.kind columns list names = .error ⟨d.kind, .unregistered list name⟩ :=
  resolve_eq_error_iff.mpr ⟨name, by rwa [map_name_of_gives hgives], rfl⟩

end Gives

/-- Every column has a path and a name of its own, and every listed name is registered. -/
structure NamesColumns (d : Declaration) : Prop where
  columns : Registrable [] d.columns
  registered : ∀ entry ∈ d.listed, d.Registered entry.2

/-- Beyond that there is a default column, none of them is also optional, and the default
order is blank or one to sort by. -/
structure IsValid (d : Declaration) : Prop extends d.NamesColumns where
  defaults_ne_nil : d.defaults ≠ []
  not_both : ∀ name ∈ d.optional.map ColumnName.ofText, name ∉ d.defaults.map ColumnName.ofText
  sortable : ∀ text, d.defaultSort = some text →
    Text.trim text = "" ∨ .ofText (Text.trim text) ∈ d.sortable.map ColumnName.ofText

/-- The defect that stands before all others. Each assumes that what is looked at before it is as
it should be. -/
inductive FirstDefect (d : Declaration) : Defect → Prop
  | column {x : Defect} (hfirst : FirstColumnDefect [] d.columns x) : d.FirstDefect x
  | unregistered {list : NameList} {name : String} (hcolumns : Registrable [] d.columns)
      (hfirst : IsFirst (fun entry => ¬ d.Registered entry.2) d.listed (list, name)) :
      d.FirstDefect (.unregistered list name)
  | noDefaults (hnames : d.NamesColumns) (hdefaults : d.defaults = []) :
      d.FirstDefect .noDefaults
  | defaultAndOptional {both : ColumnName} (hnames : d.NamesColumns) (hdefaults : d.defaults ≠ [])
      (hfirst : IsFirst (· ∈ d.defaults.map ColumnName.ofText)
        (d.optional.map ColumnName.ofText) both) :
      d.FirstDefect (.defaultAndOptional both.text)
  | unsortableDefault {text : String} (hnames : d.NamesColumns) (hdefaults : d.defaults ≠ [])
      (hnone : ∀ name ∈ d.optional.map ColumnName.ofText,
        name ∉ d.defaults.map ColumnName.ofText)
      (hsort : d.defaultSort = some text) (hblank : Text.trim text ≠ "")
      (hsortable : .ofText (Text.trim text) ∉ d.sortable.map ColumnName.ofText) :
      d.FirstDefect (.unsortableDefault (ColumnName.ofText (Text.trim text)).text)

/-- The entity has what is declared, in the order in which it is. -/
structure Gives (d : Declaration) (e : Entity) : Prop where
  kind : e.kind = d.kind
  columns : List.Forall₂ ColumnDeclaration.Gives d.columns e.columns
  defaults : e.defaults = d.defaults.map .ofText
  optional : e.optional = d.optional.map .ofText
  sortable : e.sortable = d.sortable.map .ofText
  defaultSort : e.defaultSort = d.defaultSort.elim none SortKey.ofText

end Declaration

namespace Entity

variable {d : Declaration}

theorem setDefaultSort_eq_error_iff {e : Entity} {key : SortKey} {err : EntityError} :
    e.setDefaultSort key = .error err ↔
      ∃ name, key = some name ∧ ¬ e.Sortable name ∧
        err = ⟨e.kind, .unsortableDefault name.text⟩ := by
  cases key with
  | none => simp [setDefaultSort]
  | some name =>
      by_cases hname : e.Sortable name
      · simp [setDefaultSort, hname]
      · simp [setDefaultSort, hname, eq_comm]

/-- What is left to check once all names are known. -/
theorem ofDeclaration_of_namesColumns (h : d.NamesColumns) :
    ∃ columns, List.Forall₂ ColumnDeclaration.Gives d.columns columns ∧
      ofDeclaration d =
        if d.defaults = [] then .error ⟨d.kind, .noDefaults⟩
        else match (d.optional.map ColumnName.ofText).find?
            (· ∈ d.defaults.map ColumnName.ofText) with
        | some both => .error ⟨d.kind, .defaultAndOptional both.text⟩
        | none => setDefaultSort ⟨d.kind, columns, d.defaults.map .ofText,
            d.optional.map .ofText, d.sortable.map .ofText, none⟩
              (d.defaultSort.elim none SortKey.ofText) := by
  obtain ⟨hcolumns, hlisted⟩ := h
  obtain ⟨hdefaults, hoptional, hsortable⟩ := Declaration.forall_registered_iff.mp hlisted
  obtain ⟨columns, hgives⟩ := exists_gives hcolumns.hasPath
  have hregister : register d.kind [] d.columns = .ok columns :=
    register_eq_ok_iff.mpr ⟨hcolumns, hgives⟩
  refine ⟨columns, hgives, ?_⟩
  unfold ofDeclaration
  rw [hregister]
  simp only [Declaration.resolve_of_registered hgives hdefaults,
    Declaration.resolve_of_registered hgives hoptional,
    Declaration.resolve_of_registered hgives hsortable, bind, Except.bind, List.isEmpty_iff,
    List.map_eq_nil_iff]
  by_cases hnone : d.defaults = []
  · rw [if_pos hnone, if_pos hnone]
    rfl
  · rw [if_neg hnone, if_neg hnone]
    cases d.defaultSort <;> rfl

theorem ofDeclaration_eq_error {err : EntityError} (h : ofDeclaration d = .error err) :
    err.kind = d.kind ∧ d.FirstDefect err.defect := by
  by_cases hnames : d.NamesColumns
  · obtain ⟨columns, -, heq⟩ := ofDeclaration_of_namesColumns hnames
    rw [heq] at h
    split at h
    · rename_i hdefaults
      cases h
      exact ⟨rfl, .noDefaults hnames hdefaults⟩
    · rename_i hdefaults
      split at h
      · rename_i both hboth
        cases h
        exact ⟨rfl, .defaultAndOptional hnames hdefaults (isFirst_iff_find?.mpr hboth)⟩
      · rename_i hnone
        obtain ⟨name, hname, hsortable, rfl⟩ := setDefaultSort_eq_error_iff.mp h
        obtain ⟨text, hsort, hblank, rfl⟩ := Declaration.sortKey_eq_some_iff.mp hname
        refine ⟨rfl, .unsortableDefault hnames hdefaults ?_ hsort hblank hsortable⟩
        simpa [List.find?_eq_none] using hnone
  · unfold ofDeclaration at h
    simp only [bind_eq_error_iff, register_eq_error_iff, register_eq_ok_iff] at h
    rcases h with ⟨hkind, hcolumn⟩ | ⟨columns, ⟨hcolumns, hgives⟩, h⟩
    · exact ⟨hkind, .column hcolumn⟩
    · have hmap := map_name_of_gives hgives
      simp only [resolve_eq_error_iff, resolve_eq_ok_iff, hmap] at h
      rcases h with ⟨name, hfirst, rfl⟩ | ⟨-, ⟨hdefaults, rfl⟩, h⟩
      · refine ⟨rfl, .unregistered hcolumns (Declaration.isFirst_unregistered_iff.mpr ?_)⟩
        exact .inl ⟨rfl, hfirst⟩
      rcases h with ⟨name, hfirst, rfl⟩ | ⟨-, ⟨hoptional, rfl⟩, h⟩
      · refine ⟨rfl, .unregistered hcolumns (Declaration.isFirst_unregistered_iff.mpr ?_)⟩
        exact .inr (.inl ⟨rfl, hdefaults, hfirst⟩)
      rcases h with ⟨name, hfirst, rfl⟩ | ⟨-, ⟨hsortable, rfl⟩, h⟩
      · refine ⟨rfl, .unregistered hcolumns (Declaration.isFirst_unregistered_iff.mpr ?_)⟩
        exact .inr (.inr ⟨rfl, hdefaults, hoptional, hfirst⟩)
      have hregistered := Declaration.forall_registered_iff.mpr ⟨hdefaults, hoptional, hsortable⟩
      exact absurd ⟨hcolumns, hregistered⟩ hnames

theorem ofDeclaration_of_firstDefect {x : Defect} (h : d.FirstDefect x) :
    ofDeclaration d = .error ⟨d.kind, x⟩ := by
  cases h with
  | column hfirst =>
      have hregister : register d.kind [] d.columns = .error ⟨d.kind, x⟩ :=
        register_eq_error_iff.mpr ⟨rfl, hfirst⟩
      rw [ofDeclaration, hregister]
      rfl
  | unregistered hcolumns hfirst =>
      obtain ⟨columns, hgives⟩ := exists_gives hcolumns.hasPath
      have hregister : register d.kind [] d.columns = .ok columns :=
        register_eq_ok_iff.mpr ⟨hcolumns, hgives⟩
      rw [ofDeclaration, hregister]
      rcases Declaration.isFirst_unregistered_iff.mp hfirst with
        ⟨rfl, hname⟩ | ⟨rfl, hdefaults, hname⟩ | ⟨rfl, hdefaults, hoptional, hname⟩
      · simp only [bind, Except.bind, Declaration.resolve_of_unregistered hgives hname]
      · simp only [bind, Except.bind, Declaration.resolve_of_registered hgives hdefaults,
          Declaration.resolve_of_unregistered hgives hname]
      · simp only [bind, Except.bind, Declaration.resolve_of_registered hgives hdefaults,
          Declaration.resolve_of_registered hgives hoptional,
          Declaration.resolve_of_unregistered hgives hname]
  | noDefaults hnames hdefaults =>
      obtain ⟨columns, -, heq⟩ := ofDeclaration_of_namesColumns hnames
      rw [heq, if_pos hdefaults]
  | defaultAndOptional hnames hdefaults hfirst =>
      obtain ⟨columns, -, heq⟩ := ofDeclaration_of_namesColumns hnames
      rw [heq, if_neg hdefaults, isFirst_iff_find?.mp hfirst]
  | unsortableDefault hnames hdefaults hnone hsort hblank hsortable =>
      obtain ⟨columns, -, heq⟩ := ofDeclaration_of_namesColumns hnames
      rw [heq, if_neg hdefaults, List.find?_eq_none.mpr (by simpa using hnone)]
      refine setDefaultSort_eq_error_iff.mpr ⟨_, ?_, hsortable, rfl⟩
      exact Declaration.sortKey_eq_some_iff.mpr ⟨_, hsort, hblank, rfl⟩

theorem exists_ofDeclaration (h : d.IsValid) : ∃ e, ofDeclaration d = .ok e := by
  obtain ⟨columns, -, heq⟩ := ofDeclaration_of_namesColumns h.toNamesColumns
  rw [if_neg h.defaults_ne_nil, List.find?_eq_none.mpr (by simpa using h.not_both)] at heq
  refine ⟨_, heq.trans (setDefaultSort_eq_ok_iff.mpr ⟨?_, rfl⟩)⟩
  intro name hname
  obtain ⟨text, hsort, hblank, rfl⟩ := Declaration.sortKey_eq_some_iff.mp hname
  exact (h.sortable text hsort).resolve_left hblank

theorem BuiltFrom.gives {e : Entity} (h : BuiltFrom d e) : d.Gives e where
  kind := h.kind
  columns := (register_eq_ok_iff.mp h.columns).2
  defaults := (resolve_eq_ok_iff.mp h.defaults).2
  optional := (resolve_eq_ok_iff.mp h.optional).2
  sortable := (resolve_eq_ok_iff.mp h.sortable).2
  defaultSort := h.defaultSort

/-- A declared column is found under its name. -/
theorem BuiltFrom.exists_column? {e : Entity} (h : BuiltFrom d e) {c : ColumnDeclaration}
    (hc : c ∈ d.columns) : ∃ column, e.column? (.ofText c.name) = some column ∧ c.Gives column := by
  obtain ⟨column, hcolumn, hgives⟩ := exists_gives_of_mem h.gives.columns hc
  exact ⟨column, hgives.name ▸ h.wellFormed.column?_of_mem hcolumn, hgives⟩

theorem BuiltFrom.isValid {e : Entity} (h : BuiltFrom d e) : d.IsValid := by
  have hgives := h.gives
  have hmap := map_name_of_gives hgives.columns
  have hregistered {list : NameList} {names : List String} {resolved : List ColumnName}
      (hnames : resolve d.kind e.columns list names = .ok resolved) :
      ∀ name ∈ names, d.Registered name := by
    rw [resolve_eq_ok_iff, hmap] at hnames
    exact hnames.1
  refine ⟨⟨(register_eq_ok_iff.mp h.columns).1, Declaration.forall_registered_iff.mpr
    ⟨hregistered h.defaults, hregistered h.optional, hregistered h.sortable⟩⟩, ?_, ?_, ?_⟩
  · simpa [hgives.defaults] using h.defaults_ne_nil
  · rw [← hgives.defaults, ← hgives.optional]
    exact h.not_both
  · intro text hsort
    rw [or_iff_not_imp_left, ← hgives.sortable]
    intro hblank
    apply h.defaultSort_sortable
    rw [hgives.defaultSort]
    exact Declaration.sortKey_eq_some_iff.mpr ⟨text, hsort, hblank, rfl⟩

/-- Every column of a registry is declared in the catalogue. -/
theorem exists_declared_of_registry {overrides : Kind → Option Override} {r : Registry}
    (hr : Registry.withOverrides overrides = .ok r) {kind : Kind} {c : Column}
    (hc : c ∈ (r.entity kind).columns) :
    ∃ declared ∈ (Catalogue.declaration kind).columns, declared.Gives c := by
  obtain ⟨base, hbase, -, hcolumns, -⟩ :=
    Registry.exists_sameFrame (Registry.withOverrides_eq_ok hr kind)
  rw [hcolumns] at hc
  exact exists_declared_of_mem (builtFrom_of_ofDeclaration hbase).gives.columns hc

theorem exists_declared {overrides : Kind → Option Override} {r : Registry}
    (hr : Registry.withOverrides overrides = .ok r) {kind : Kind} {name : ColumnName} {c : Column}
    (hc : (r.entity kind).column? name = some c) :
    ∃ declared ∈ (Catalogue.declaration kind).columns, declared.Gives c :=
  exists_declared_of_registry hr (List.mem_of_find?_eq_some hc)

theorem exists_ofDeclaration_catalogue (kind : Kind) :
    ∃ e, ofDeclaration (Catalogue.declaration kind) = .ok e := by
  obtain ⟨r, hr⟩ := Registry.exists_withOverrides_none
  exact ⟨r.entity kind, Registry.ofDeclaration_entity hr kind⟩

/-- A declaration gives an entity just if it is valid, and then the entity has what is declared.
Of a declaration that is not, the first defect is reported. -/
theorem ofDeclaration_decides (d : Declaration) :
    ((∃ e, ofDeclaration d = .ok e) ↔ d.IsValid) ∧
    (∀ err, ofDeclaration d = .error err ↔ err.kind = d.kind ∧ d.FirstDefect err.defect) ∧
    ∀ e, ofDeclaration d = .ok e → d.Gives e := by
  refine ⟨⟨?_, exists_ofDeclaration⟩, fun err => ⟨ofDeclaration_eq_error, ?_⟩, fun e he => ?_⟩
  · rintro ⟨e, he⟩
    exact (builtFrom_of_ofDeclaration he).isValid
  · obtain ⟨kind, x⟩ := err
    rintro ⟨rfl, hfirst⟩
    exact ofDeclaration_of_firstDefect hfirst
  · exact (builtFrom_of_ofDeclaration he).gives

/-- Users are declared validly. Of a declaration that is wrong in its columns, in all of its
lists and in its order, the path of the second column is reported, though its name is repeated. -/
theorem ofDeclaration_decides_users :
    let columns : List ColumnDeclaration :=
      [⟨"id", "id", .integer, "ID", .raw⟩, ⟨"ID", "user..id", .text, "User", .raw⟩]
    (∃ e, ofDeclaration Catalogue.user = .ok e ∧ e.columns.length = 9 ∧
      e.defaults = Catalogue.user.defaults.map .ofText) ∧
    ofDeclaration ⟨.user, columns, [], ["name"], ["status"], some "login"⟩ =
      .error ⟨.user, .malformedPath "ID" "user..id"⟩ := by
  intro columns
  constructor
  · obtain ⟨e, he⟩ := exists_ofDeclaration_catalogue .user
    have hgives := (ofDeclaration_decides Catalogue.user).2.2 e he
    exact ⟨e, he, hgives.columns.length_eq.symm, hgives.defaults⟩
  · refine ((ofDeclaration_decides _).2.1 _).mpr ⟨rfl, .column ?_⟩
    refine ⟨[⟨"id", "id", .integer, "ID", .raw⟩], ⟨"ID", "user..id", .text, "User", .raw⟩, [], rfl,
      ⟨?_, by decide, by decide⟩, .malformedPath ?_⟩
    · rw [List.forall_mem_singleton, ColumnDeclaration.hasPath_iff]
      exact Option.isSome_iff_exists.mp (by decide)
    · rw [ColumnDeclaration.hasPath_iff, ← Option.isSome_iff_exists]
      decide

end Entity

end RecordListing
