import RecordListing.Proofs.KeptSettings

namespace RecordListing

/-!
# Printed settings load back

A file with the printed settings gives each setting its own value again. Of a part of that
text the settings in it come back, and all others have their defaults. Only a name that
begins a table and marks an instant there is in the way.
-/

open Setting Layer Toml Toml.Chapter

namespace Settings

variable {kept : List String → Bool}

/-! ## Names that stand for instants -/

/-- Neither the modules nor the entities begin with the key that marks an instant. -/
structure BeginsPlainly (s : Settings) : Prop where
  modules : (s.logging.modules.map (·.1)).head? ≠ some instantKey
  entities : (s.entities.map (·.1)).head? ≠ some instantKey

theorem ne_instantKey {key : String} (h : key ∈ plainNames) : key ≠ instantKey :=
  (by decide : ∀ key ∈ plainNames, key ≠ instantKey) key h

theorem key_mem_of_own {s : Settings} {g : Chapter} (hg : g ∈ s.chapters) :
    ∀ e ∈ g.own.getD [], e.key ∈ plainNames := by
  simp only [chapters, List.mem_cons, List.not_mem_nil, or_false] at hg
  rcases hg with rfl | rfl | rfl
  · simp only [OutputSettings.chapter, Option.getD_some, List.forall_mem_cons]
    exact ⟨(by decide : "default_mode" ∈ plainNames), (by decide : "table_style" ∈ plainNames),
      (by decide : "color" ∈ plainNames), List.forall_mem_nil _⟩
  · simp only [LoggingSettings.chapter, LoggingSettings.entries, Option.getD_some,
      List.forall_mem_append, List.forall_mem_cons, Option.mem_toList, Option.map_eq_some_iff]
    refine ⟨⟨⟨(by decide : "enabled" ∈ plainNames), (by decide : "level" ∈ plainNames),
      (by decide : "format" ∈ plainNames), (by decide : "output" ∈ plainNames),
      List.forall_mem_nil _⟩, ?_⟩, (by decide : "color" ∈ plainNames),
      List.forall_mem_nil _⟩
    rintro e ⟨file, -, rfl⟩
    exact (by decide : "file" ∈ plainNames)
  · rw [own_entityChapter]
    exact List.forall_mem_nil _

theorem key_mem_of_override (o : Override) : ∀ e ∈ o.entries, e.key ∈ plainNames := by
  simp only [Override.entries, List.forall_mem_append, Option.mem_toList, Option.map_eq_some_iff]
  constructor
  · rintro e ⟨cs, -, rfl⟩
    exact (by decide : "default_columns" ∈ plainNames)
  · rintro e ⟨order, -, rfl⟩
    exact (by decide : "default_sort" ∈ plainNames)

/-- The keys of a table of modules that is kept are the names of the modules that are kept. -/
theorem keys_modules_keep {s : Settings} {part : String × List Assignment}
    (h : part ∈ (s.logging.chapter.keep kept).parts) :
    part.1 = "modules" ∧ part.2.map (·.key) = (s.keep kept).logging.modules.map (·.1) := by
  obtain ⟨part', hmem, hkept, rfl⟩ := mem_parts_keep.mp h
  obtain rfl := List.mem_singleton.mp hmem
  have htable : kept ["logging", "modules"] := hkept
  refine ⟨rfl, ?_⟩
  simp [keep, Item.isKept, Item.path, htable, List.filter_map, Function.comp_def, Assignment.ofText,
    LoggingSettings.chapter]

theorem names_entities_keep (s : Settings) :
    ((entityChapter s.entities).keep kept).parts.map (·.1) = (s.keep kept).entities.map (·.1) := by
  simp [keep, Chapter.keep, entityChapter, List.filter_map, Function.comp_def]

/-- The entries under its own header, if there are any, decide how a table begins. -/
theorem head?_members {s : Settings} {g : Chapter} (hg : g ∈ s.chapters) :
    ((g.keep kept).members.map (·.1)).head? = some instantKey ↔
      (g.keep kept).own.getD [] = [] ∧
        ((g.keep kept).parts.map (·.1)).head? = some instantKey := by
  have hkeys : (g.keep kept).members.map (·.1) =
      ((g.keep kept).own.getD []).map (·.key) ++ (g.keep kept).parts.map (·.1) := by
    simp [members, Function.comp_def]
  rw [hkeys]
  cases hown : (g.keep kept).own.getD [] with
  | nil => simp
  | cons e rest =>
      have he : e ∈ (g.keep kept).own.getD [] := hown ▸ List.mem_cons_self
      have hne := ne_instantKey (key_mem_of_own hg e (mem_own_keep.mp he).2.2)
      simp [hne]

theorem hasNoInstant_keep {s : Settings} (h : (s.keep kept).BeginsPlainly) :
    ∀ g ∈ s.chapters, (g.keep kept).HasNoInstant := by
  have hchapter {g : Chapter} (hg : g ∈ s.chapters) (hname : g.name ∈ plainNames)
      (hnames : ((g.keep kept).parts.map (·.1)).head? ≠ some instantKey)
      (hparts : ∀ part ∈ (g.keep kept).parts, (part.2.map (·.key)).head? ≠ some instantKey) :
      (g.keep kept).HasNoInstant := by
    exact ⟨ne_instantKey hname, fun hhead => hnames ((head?_members hg).mp hhead).2, hparts⟩
  intro g hg
  have hmem := hg
  simp only [chapters, List.mem_cons, List.not_mem_nil, or_false] at hmem
  rcases hmem with rfl | rfl | rfl
  · exact hchapter hg (by decide : "output" ∈ plainNames)
      (by simp [OutputSettings.chapter, Chapter.keep])
      (List.forall_mem_nil _)
  · refine hchapter hg (by decide : "logging" ∈ plainNames) (fun hhead => ?_) fun part hpart => ?_
    · obtain ⟨part, hpart, hname⟩ := List.mem_map.mp (List.mem_of_head? hhead)
      rw [(keys_modules_keep hpart).1] at hname
      exact absurd hname (by decide)
    · rw [(keys_modules_keep hpart).2]
      exact h.modules
  · refine hchapter hg (by decide : "entities" ∈ plainNames) ?_ fun part hpart hhead => ?_
    · rw [names_entities_keep]
      exact h.entities
    · obtain ⟨part', hpart', -, rfl⟩ := mem_parts_keep.mp hpart
      obtain ⟨m, -, rfl⟩ := List.mem_map.mp hpart'
      obtain ⟨e, he, hkey⟩ := List.mem_map.mp (List.mem_of_head? hhead)
      exact ne_instantKey (key_mem_of_override m.2 e (List.mem_of_mem_filter he)) hkey

/-! ## Instants where tables belong -/

theorem not_decode_of_entities {layer : Layer} (hkeys : (layer.map fun e => Text.lower e.1).Nodup)
    {origin : Option String} {v : Scalar} (h : ("entities", .scalar origin v) ∈ layer)
    (s : Settings) : decode (merge layer defaultTree) ≠ .ok s := by
  intro hdecode
  have hget := get?_merge_scalar hkeys h defaultTree
  rw [lower_of_mem_plainNames "entities" (by decide)] at hget
  obtain ⟨s₁, s₂, hfield⟩ := Decoder.exists_decode_of_merge hdecode hget rfl
  cases hfield

theorem not_decode_of_modules {layer : Layer} (hkeys : (layer.map fun e => Text.lower e.1).Nodup)
    {origin origin' : Option String} {v : Scalar} {members : List (String × Setting)}
    (h : ("logging", .table origin members) ∈ layer)
    (hmembers : (members.map fun e => Text.lower e.1).Nodup)
    (hmodules : ("modules", .scalar origin' v) ∈ members)
    (s : Settings) : decode (merge layer defaultTree) ≠ .ok s := by
  intro hdecode
  have hget := get?_merge_table hkeys h defaultTree
  rw [lower_of_mem_plainNames "logging" (by decide)] at hget
  have hlogging : (Keyed.get? "logging" defaultTree.entries).getD empty = defaultLogging := rfl
  rw [hlogging] at hget
  obtain ⟨s₁, s₂, hfield⟩ := Decoder.exists_decode_of_merge hdecode hget rfl
  cases hdecode' : LoggingSettings.decode (merge members defaultLogging) with
  | error e => simp [Decoder.field, hdecode', Except.map] at hfield
  | ok l =>
      have hget' := get?_merge_scalar hmembers hmodules defaultLogging
      rw [lower_of_mem_plainNames "modules" (by decide)] at hget'
      obtain ⟨l₁, l₂, hfield'⟩ := Decoder.exists_decode_of_merge hdecode' hget' rfl
      cases hfield'

/-! ## Files -/

theorem eq_ok_of_mapError {ε ε' α : Type} {f : ε → ε'} {x : Except ε α} {a : α}
    (h : x.mapError f = .ok a) : x = .ok a := by
  cases x with
  | error e => cases h
  | ok b => exact congrArg Except.ok (Except.ok.inj h)

theorem ofLayers_file (layer : Layer) :
    ofLayers [Layer.defaults, layer] =
      (decode (defaultTree.overlay layer)).mapError .decode := by
  simp only [ofLayers, List.foldl_cons, List.foldl_nil, overlay_defaults]
  cases decode (defaultTree.overlay layer) <;> rfl

/-- The tables that are written of what is kept. -/
def tables (kept : List String → Bool) (c : Settings) : List (String × Toml) :=
  (c.chapters.map (Chapter.keep kept)).flatMap Chapter.toToml

theorem isOrdinary_keep {c : Settings} (h : c.IsNormal) :
    ∀ g ∈ c.chapters.map (Chapter.keep kept), g.IsOrdinary := by
  rw [List.forall_mem_map]
  exact fun g hg => (isOrdinary_chapters h g hg).keep

theorem nodup_names (c : Settings) : ((c.chapters.map (Chapter.keep kept)).map (·.name)).Nodup :=
  (by decide : ["output", "logging", "entities"].Nodup)

theorem name_mem_of_keep {c : Settings} {g : Chapter}
    (hg : g ∈ c.chapters.map (Chapter.keep kept)) :
    g.name ∈ ["output", "logging", "entities"] :=
  List.mem_map_of_mem (f := (·.name)) hg

theorem nodup_keys_tables (c : Settings) : ((c.tables kept).map (·.1)).Nodup :=
  (nodup_names c).sublist (map_fst_flatMap_toToml _)

theorem key_mem_of_resolvedEntries? {c : Settings} {es : List (String × Toml)}
    (hes : resolvedEntries? (c.tables kept) = some es) :
    ∀ e ∈ es, e.1 ∈ ["output", "logging", "entities"] := by
  intro e he
  obtain ⟨e', he', hname⟩ :=
    List.mem_map.mp (mem_keys_of_resolvedEntries? hes (List.mem_map_of_mem he))
  have hmem : e' ∈ (c.chapters.map (Chapter.keep kept)).flatMap Chapter.toToml := he'
  obtain ⟨g, hg, rfl⟩ := exists_of_mem_toToml hmem
  exact hname ▸ name_mem_of_keep hg

/-- A file of sections gives what their tables convert to. -/
theorem loadFile_sections {s : Surroundings} {path : String} {c : Settings} (h : c.IsNormal)
    (hextension : Path.extension path = "toml") {gap : List String → Nat} {last : Nat}
    (hstanding : s.standing path = .file (spaced gap last (keptSections kept c.tomlSections))) :
    loadFile s path = (resolvedEntries? (c.tables kept)).elim (.error .badToml) fun es =>
      (decode (merge (ofTomlEntries (some (displayPath path)) es) defaultTree)).mapError
        .decode := by
  have hinstant : ∀ g ∈ c.chapters.map (Chapter.keep kept), g.name ≠ instantKey := by
    intro g hg
    exact (by decide : ∀ name ∈ ["output", "logging", "entities"], name ≠ instantKey) _
      (name_mem_of_keep hg)
  have htext := Chapter.ofText?_chapters (isOrdinary_keep h) (nodup_names c) hinstant gap last
  rw [← keptSections_chapters, ← tomlSections_eq] at htext
  have htables : (c.chapters.map (Chapter.keep kept)).flatMap Chapter.toToml = c.tables kept := rfl
  simp only [loadFile, explicit_of_file hextension hstanding, Layer.ofText, htext, htables]
  cases hes : resolvedEntries? (c.tables kept) with
  | none => rfl
  | some es =>
      have hkeys : ∀ e ∈ ofTomlEntries (some (displayPath path)) es, Key.IsName e.1 := by
        rw [ofTomlEntries_eq_map, List.forall_mem_map]
        intro e he
        exact (by decide : ∀ name ∈ ["output", "logging", "entities"], Key.IsName name) _
          (key_mem_of_resolvedEntries? hes e he)
      simp only [Option.map_some, Option.elim_some, ofToml, ofRoot, ofLayers_file,
        overlay_of_isName hkeys]

theorem loadFile_kept {s : Surroundings} {path : String} {c : Settings} (h : c.IsNormal)
    (hextension : Path.extension path = "toml") {gap : List String → Nat} {last : Nat}
    (hstanding : s.standing path = .file (spaced gap last (keptSections kept c.tomlSections)))
    (hplain : (c.keep kept).BeginsPlainly) : loadFile s path = .ok (c.keep kept) := by
  have hinstant : ∀ g ∈ c.chapters.map (Chapter.keep kept), g.HasNoInstant := by
    rw [List.forall_mem_map]
    exact hasNoInstant_keep hplain
  obtain ⟨es, hes, hleaves⟩ := exists_leaves (isOrdinary_keep h) (nodup_names c) hinstant
  obtain ⟨happart, hleaves⟩ := hleaves (some (displayPath path))
  have htables : resolvedEntries? (c.tables kept) = some es := hes
  have hdecode : decode (merge (ofTomlEntries (some (displayPath path)) es) defaultTree) =
      .ok (c.keep kept) := decode_of_leaves h happart (by simpa using hleaves)
  rw [loadFile_sections h hextension hstanding, htables, Option.elim_some, hdecode]
  rfl

section

variable {c : Settings} {es : List (String × Toml)}
    (hes : resolvedEntries? (c.tables kept) = some es)
include hes

theorem get?_of_resolvedEntries? {g : Chapter} (hg : g ∈ c.chapters)
    (hparts : (g.keep kept).parts ≠ []) :
    ∃ v, (table (g.keep kept).members).resolved? = some v ∧ (g.name, v) ∈ es := by
  have hmem : (g.name, table (g.keep kept).members) ∈ c.tables kept := by
    refine List.mem_flatMap.mpr ⟨_, List.mem_map_of_mem hg, ?_⟩
    rw [Chapter.toToml, if_neg fun h => hparts h.2]
    exact List.mem_singleton_self _
  obtain ⟨v, hv⟩ := Option.isSome_iff_exists.mp (isSome_resolved?_of_mem hes hmem)
  refine ⟨v, hv, Keyed.mem_of_get? ?_⟩
  rw [get?_resolvedEntries? hes, Keyed.get?_eq_some_of_mem (nodup_keys_tables c) hmem,
    Option.bind_some]
  exact hv

theorem entities_of_resolvedEntries?
    (h : ((c.keep kept).entities.map (·.1)).head? = some instantKey) :
    ∃ t, ("entities", .instant t) ∈ es := by
  have hg := c.entities_mem_chapters
  rw [← names_entities_keep] at h
  have hown : ((entityChapter c.entities).keep kept).own.getD [] = [] := by
    simp [own_keep, own_entityChapter]
  obtain ⟨v, hv, hmem⟩ := get?_of_resolvedEntries? hes hg (by
    intro hnil
    rw [hnil] at h
    cases h)
  obtain ⟨t, rfl⟩ := resolved?_of_instantKey ((head?_members hg).mpr ⟨hown, h⟩) hv
  exact ⟨t, hmem⟩

theorem modules_of_resolvedEntries? (hnormal : c.IsNormal)
    (h : ((c.keep kept).logging.modules.map (·.1)).head? = some instantKey) :
    ∃ ms t, ("logging", .table ms) ∈ es ∧ ("modules", .instant t) ∈ ms ∧
      (ms.map (·.1)).Nodup ∧ ∀ e ∈ ms, Text.lower e.1 = e.1 := by
  have hg := c.logging_mem_chapters
  have hordinary : (c.logging.chapter.keep kept).IsOrdinary :=
    (isOrdinary_chapters hnormal _ hg).keep
  obtain ⟨part, hpart⟩ : ∃ part, part ∈ (c.logging.chapter.keep kept).parts := by
    obtain ⟨m, hm, -⟩ := List.mem_map.mp (List.mem_of_head? h)
    have hkept := (List.mem_filter.mp hm).2
    rw [Item.isKept, Bool.and_eq_true] at hkept
    exact ⟨_, mem_parts_keep.mpr ⟨_, List.mem_singleton_self _, hkept.1, rfl⟩⟩
  obtain ⟨hname, hkeys⟩ := keys_modules_keep hpart
  rw [← hkeys] at h
  obtain ⟨v, hv, hmem⟩ := get?_of_resolvedEntries? hes hg (List.ne_nil_of_mem hpart)
  -- The table around the modules is none for an instant: that of the modules becomes one in it.
  have hhead : ((c.logging.chapter.keep kept).members.map (·.1)).head? ≠ some instantKey := by
    intro hhead
    obtain ⟨part', hpart', hinstant⟩ :=
      List.mem_map.mp (List.mem_of_head? ((head?_members hg).mp hhead).2)
    rw [(keys_modules_keep hpart').1] at hinstant
    exact absurd hinstant (by decide)
  rw [resolved?_table hhead] at hv
  obtain ⟨ms, hms, rfl⟩ := Option.map_eq_some_iff.mp hv
  have hmodules : ("modules", table (part.2.map fun e => (e.key, e.value))) ∈
      (c.logging.chapter.keep kept).members := by
    rw [← hname]
    exact List.mem_append_right _ (List.mem_map_of_mem hpart)
  obtain ⟨w, hw⟩ := Option.isSome_iff_exists.mp (isSome_resolved?_of_mem hms hmodules)
  obtain ⟨t, rfl⟩ := resolved?_of_instantKey (by simpa [Function.comp_def] using h) hw
  refine ⟨ms, t, hmem, Keyed.mem_of_get? ?_, nodup_resolvedEntries? hms, fun e he => ?_⟩
  · rw [get?_resolvedEntries? hms, Keyed.get?_eq_some_of_mem hordinary.nodup_members hmodules,
      Option.bind_some]
    exact hw
  · obtain ⟨e', he', hkey⟩ :=
      List.mem_map.mp (mem_keys_of_resolvedEntries? hms (List.mem_map_of_mem he))
    rw [← hkey]
    exact hordinary.lower_members e' he'

end

/-- Nothing is loaded where an instant stands for the modules or the entities. -/
theorem beginsPlainly_of_loadFile {s : Surroundings} {path : String} {c c' : Settings}
    (h : c.IsNormal) (hextension : Path.extension path = "toml") {gap : List String → Nat}
    {last : Nat}
    (hstanding : s.standing path = .file (spaced gap last (keptSections kept c.tomlSections)))
    (hload : loadFile s path = .ok c') : (c.keep kept).BeginsPlainly := by
  rw [loadFile_sections h hextension hstanding] at hload
  cases hes : resolvedEntries? (c.tables kept) with
  | none =>
      rw [hes] at hload
      cases hload
  | some es =>
      rw [hes, Option.elim_some] at hload
      have hdecode := eq_ok_of_mapError hload
      have hkeys : ∀ e ∈ es, Text.lower e.1 = e.1 := fun e he =>
        (by decide : ∀ name ∈ ["output", "logging", "entities"], Text.lower name = name) _
          (key_mem_of_resolvedEntries? hes e he)
      have hnodup := nodup_lower_ofTomlEntries (nodup_resolvedEntries? hes) hkeys
        (some (displayPath path))
      have hmem {name : String} {v : Toml} {es : List (String × Toml)} (hv : (name, v) ∈ es) :
          (name, ofToml (some (displayPath path)) v) ∈
            ofTomlEntries (some (displayPath path)) es := by
        rw [ofTomlEntries_eq_map]
        exact List.mem_map_of_mem (f := fun e => (e.1, ofToml _ e.2)) hv
      constructor
      · intro hhead
        obtain ⟨ms, t, hlogging, hmodules, hms, hlower⟩ := modules_of_resolvedEntries? hes h hhead
        exact not_decode_of_modules hnodup (hmem hlogging)
          (nodup_lower_ofTomlEntries hms hlower _) (hmem hmodules) c' hdecode
      · intro hhead
        obtain ⟨t, hentities⟩ := entities_of_resolvedEntries? hes hhead
        exact not_decode_of_entities hnodup (hmem hentities) c' hdecode

end Settings

namespace Toml

theorem writeSections_eq_spaced {gap : List String → Nat} {first : Section}
    {rest : List Section} (hfirst : gap first.path = 0) (hrest : ∀ s ∈ rest, gap s.path = 1) :
    writeSections (first :: rest) = spaced gap 0 (first :: rest) := by
  have hlines : ∀ (rest : List Section) (first : Section), (∀ s ∈ rest, gap s.path = 1) →
      (writeSections (first :: rest)).toList = first.write.toList ++
        rest.flatMap fun s => List.replicate (gap s.path) '\n' ++ s.write.toList := by
    intro rest
    induction rest with
    | nil => simp [writeSections]
    | cons next rest ih =>
        intro first h
        rw [List.forall_mem_cons] at h
        have hnext := ih next h.2
        simp only [writeSections, String.toList_intercalate, List.map_cons] at hnext ⊢
        rw [List.intercalate_cons_cons, hnext]
        simp [h.1]
  apply String.toList_injective
  rw [hlines rest first hrest, spaced, String.toList_ofList, List.flatMap_cons, hfirst]
  simp

end Toml

namespace Settings

/-- The sections of settings are written with an empty line between each two. -/
theorem toToml_eq_spaced (c : Settings) :
    c.toToml = spaced (fun path => if path = ["output"] then 0 else 1) 0 c.tomlSections := by
  refine writeSections_eq_spaced rfl fun s hs => if_neg ?_
  rcases List.mem_append.mp hs with hlogging | hentities
  · simp only [LoggingSettings.tomlSections, List.mem_cons, List.not_mem_nil, or_false] at hlogging
    rcases hlogging with rfl | rfl <;> simp
  · split at hentities
    · obtain rfl := List.mem_singleton.mp hentities
      decide
    · obtain ⟨e, -, rfl⟩ := List.mem_map.mp hentities
      simp [Override.tomlSection]

/-- A file with the printed settings gives them back, and of a part of that text exactly the
settings in that part are kept, unless the modules or the entities begin with the reserved
name. -/
theorem loadFile_printed {s : Surroundings} {path : String} {c : Settings} (h : c.IsNormal)
    (hextension : Path.extension path = "toml") :
    (s.standing path = .file c.toToml → (loadFile s path = .ok c ↔ c.BeginsPlainly)) ∧
    ∀ (kept : List String → Bool) (gap : List String → Nat) (last : Nat),
      s.standing path = .file (spaced gap last (keptSections kept c.tomlSections)) →
      (loadFile s path = .ok (c.keep kept) ↔ (c.keep kept).BeginsPlainly) := by
  have hkept (kept : List String → Bool) (gap : List String → Nat) (last : Nat)
      (hstanding : s.standing path = .file (spaced gap last (keptSections kept c.tomlSections))) :
      loadFile s path = .ok (c.keep kept) ↔ (c.keep kept).BeginsPlainly :=
    ⟨beginsPlainly_of_loadFile h hextension hstanding, loadFile_kept h hextension hstanding⟩
  refine ⟨fun hstanding => ?_, hkept⟩
  have hall : keptSections (fun _ => true) c.tomlSections = c.tomlSections := by
    simp [keptSections]
  rw [toToml_eq_spaced, ← hall] at hstanding
  have hload := hkept _ _ _ hstanding
  rwa [keep_all] at hload

/-- The name of the module has a dot, and the order is no plain word. -/
def dottedModule : Settings where
  output := { color := false }
  logging := { file := some "a\\b", modules := [("store.cache", "debug")] }
  entities := [("user", ⟨some [.ofText "email"], some "say \"x\""⟩), ("volume", {})]

theorem loadFile_printed_dottedModule :
    loadFile (.onlyFile "c.toml" dottedModule.toToml) "c.toml" = .ok dottedModule ∧
    loadFile (.onlyFile "c.toml" (spaced (fun _ => 1) 0
      (keptSections (· ∉ [["output"], ["logging", "file"], ["entities", "user"]])
        dottedModule.tomlSections))) "c.toml" =
      .ok {
        logging := { modules := [("store.cache", "debug")] }
        entities := [("volume", {})] } := by
  have hnormal : dottedModule.IsNormal := by
    refine ⟨?_, ?_, ?_, ?_⟩ <;> decide
  have hload (text : String) := loadFile_printed (s := .onlyFile "c.toml" text) hnormal
    (by decide : Path.extension "c.toml" = "toml")
  refine ⟨((hload _).1 rfl).mpr ⟨by decide, by decide⟩, ?_⟩
  exact ((hload _).2 (· ∉ [["output"], ["logging", "file"], ["entities", "user"]]) _ _ rfl).mpr
    ⟨by decide, by decide⟩

/-- These settings are loaded from a file that names the modules in another order. -/
def instantModule : Settings where
  logging := { modules := [("$__toml_private_datetime", "debug"), ("z", "info")] }

theorem loadFile_loses_instantModule :
    instantModule.IsNormal ∧
    loadFile (.onlyFile "c.toml"
        "[logging.modules]\nz = \"info\"\n\"$__toml_private_datetime\" = \"debug\"\n") "c.toml" =
      .ok instantModule ∧
    loadFile (.onlyFile "c.toml" instantModule.toToml) "c.toml" = .error .badToml := by
  refine ⟨⟨?_, ?_, ?_, ?_⟩, ?_, ?_⟩
  · decide
  · decide
  · decide
  · decide
  · decide +kernel
  · decide +kernel

end Settings

end RecordListing
