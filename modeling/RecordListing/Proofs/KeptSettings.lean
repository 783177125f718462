import RecordListing.Proofs.Layering
import RecordListing.Proofs.SettingsSections

namespace RecordListing

/-!
# Settings kept in part

The leaves of a part of the sections are the settings in it, each with a value that converts
back. So a tree with just these leaves over the defaults converts to the settings that are
kept, and all others have their defaults.
-/

open Setting Layer Toml Toml.Chapter

/-! ## Values of settings -/

def Override.keep (kept : String → Bool) (o : Override) : Override where
  defaultColumns := if kept "default_columns" then o.defaultColumns else none
  defaultSort := if kept "default_sort" then o.defaultSort else none

theorem OutputForm.decode_name (origin : Option String) (form : OutputForm) :
    OutputForm.decode (.scalar origin (.text form.name)) = .ok form := by
  have hfind : OutputForm.all.find? (fun v => Text.lower v.name = Text.lower form.name) =
      some form := by
    cases form <;> decide
  simp only [OutputForm.decode, Decoder.variant, hfind]

theorem TableStyle.decode_name (origin : Option String) (style : TableStyle) :
    TableStyle.decode (.scalar origin (.text style.name)) = .ok style := by
  have hfind : TableStyle.all.find? (fun v => Text.lower v.name = Text.lower style.name) =
      some style := by
    cases style <;> decide
  simp only [TableStyle.decode, Decoder.variant, hfind]

theorem decodeItems_columns (origin : Option String) (cs : List ColumnName) (i : Nat) :
    Decoder.decodeItems ColumnName.decode i
      (ofTomlItems origin ((cs.map (·.text)).map .text)) = .ok cs := by
  induction cs generalizing i with
  | nil => rfl
  | cons c cs ih =>
      have hfirst : ColumnName.decode (.scalar origin (.text c.text)) = .ok c := by
        rw [ColumnName.decode, Decoder.text, Except.map, ColumnName.ofText_text]
      rw [List.map_cons, List.map_cons, ofTomlItems, ofToml, Decoder.decodeItems, hfirst]
      simp only [ih, Except.map]

namespace Settings

namespace Item

variable {α : Type}

/-- The value as it is printed, if it is. -/
def toToml? : Item α → α → Option Toml
  | defaultMode, form => some (.text form.name)
  | tableStyle, style => some (.text style.name)
  | outputColor, b => some (.bool b)
  | enabled, b => some (.bool b)
  | level, s => some (.text s)
  | format, s => some (.text s)
  | output, s => some (.text s)
  | file, s => s.map .text
  | loggingColor, b => some (.bool b)
  | module _, s => s.map .text
  | columns _, cs => cs.map fun cs => .array ((cs.map (·.text)).map .text)
  | order _, s => s.map .text

theorem decode_of_toToml? (x : Item α) {a : α} {v : Toml} (h : x.toToml? a = some v)
    (origin : Option String) : x.decode (ofToml origin v) = .ok a := by
  cases x with
  | defaultMode =>
      cases h
      exact OutputForm.decode_name origin a
  | tableStyle =>
      cases h
      exact TableStyle.decode_name origin a
  | outputColor | enabled | level | format | output | loggingColor =>
      cases h
      rfl
  | file | module | order =>
      obtain ⟨s, rfl, rfl⟩ := Option.map_eq_some_iff.mp h
      rfl
  | columns =>
      obtain ⟨cs, rfl, rfl⟩ := Option.map_eq_some_iff.mp h
      have hitems := decodeItems_columns origin cs 0
      simp only [decode, Decoder.optional, ofToml, Decoder.list, hitems, Except.map]

theorem noTable_of_toToml? (x : Item α) {a : α} {v : Toml} (h : x.toToml? a = some v)
    (origin : Option String) : (ofToml origin v).isTable = false := by
  cases x with
  | defaultMode | tableStyle | outputColor | enabled | level | format | output | loggingColor =>
      cases h
      rfl
  | file | module | order | columns =>
      obtain ⟨s, rfl, rfl⟩ := Option.map_eq_some_iff.mp h
      rfl

/-- Only what is unset is not printed. -/
theorem eq_default_of_toToml? (x : Item α) {a : α} (h : x.toToml? a = none) : a = x.get {} := by
  cases x with
  | defaultMode | tableStyle | outputColor | enabled | level | format | output | loggingColor =>
      cases h
  | file | module | order | columns => exact Option.map_eq_none_iff.mp h

theorem eq_of_prefix {β : Type} (x : Item α) (y : Item β) (h : x.path <+: y.path) :
    (⟨α, x⟩ : (γ : Type) × Item γ) = ⟨β, y⟩ := by
  cases x <;> cases y <;> first | rfl | simp_all [path, List.cons_prefix_cons]

/-- The setting and the table that it is in are kept. -/
def isKept (kept : List String → Bool) (x : Item α) : Bool := kept x.path.dropLast && kept x.path

def keep (kept : List String → Bool) (x : Item α) (s : Settings) : α :=
  if x.isKept kept then x.get s else x.get {}

end Item

/-- The settings at the paths that are kept, and the defaults of all others. -/
def keep (kept : List String → Bool) (s : Settings) : Settings where
  output := {
    defaultMode := Item.defaultMode.keep kept s
    tableStyle := Item.tableStyle.keep kept s
    color := Item.outputColor.keep kept s }
  logging := {
    enabled := Item.enabled.keep kept s
    level := Item.level.keep kept s
    format := Item.format.keep kept s
    output := Item.output.keep kept s
    file := Item.file.keep kept s
    color := Item.loggingColor.keep kept s
    modules := s.logging.modules.filter fun m => (Item.module m.1).isKept kept }
  entities := (s.entities.filter fun e => kept ["entities", e.1]).map fun e =>
    (e.1, e.2.keep fun field => kept ["entities", e.1, field])

variable {kept : List String → Bool}

theorem get?_entities_keep (s : Settings) (name : String) :
    Keyed.get? name (s.keep kept).entities =
      if kept ["entities", name] then
        (Keyed.get? name s.entities).map (Override.keep fun field => kept ["entities", name, field])
      else none := by
  have hmap := Keyed.get?_map
    (fun name => Override.keep fun field => kept ["entities", name, field]) name
    (s.entities.filter fun e => kept ["entities", e.1])
  rw [Keyed.get?_filter (fun name => kept ["entities", name])] at hmap
  rw [keep, hmap]
  by_cases hname : kept ["entities", name] <;> simp [hname]

theorem Item.get_keep {α : Type} (x : Item α) (s : Settings) :
    x.get (s.keep kept) = x.keep kept s := by
  cases x with
  | defaultMode | tableStyle | outputColor | enabled | level | format | output | file
  | loggingColor => rfl
  | module name =>
      exact Keyed.get?_filter (fun name => (Item.module name).isKept kept) name s.logging.modules
  | columns name =>
      have hkept : (Item.columns name).isKept kept =
          (kept ["entities", name] && kept ["entities", name, "default_columns"]) := rfl
      simp only [Item.get, get?_entities_keep, Item.keep, hkept]
      cases Keyed.get? name s.entities <;> by_cases hname : kept ["entities", name] <;>
        simp [hname, Override.keep]
  | order name =>
      have hkept : (Item.order name).isKept kept =
          (kept ["entities", name] && kept ["entities", name, "default_sort"]) := rfl
      simp only [Item.get, get?_entities_keep, Item.keep, hkept]
      cases Keyed.get? name s.entities <;> by_cases hname : kept ["entities", name] <;>
        simp [hname, Override.keep]

theorem keep_all (s : Settings) : s.keep (fun _ => true) = s := by
  simp [keep, Item.keep, Item.isKept, Item.get, Override.keep]

/-! ## What the sections give -/

/-- A setting has its path here, and this is its value as it is printed. -/
def IsPrinted (s : Settings) (path : List String) (v : Toml) : Prop :=
  ∃ (α : Type) (x : Item α), x.path = path ∧ x.toToml? (x.get s) = some v

theorem isPrinted_output (o : Settings) : ∀ e ∈ o.output.chapter.own.getD [],
    o.IsPrinted ["output", e.key] e.value := by
  simp only [OutputSettings.chapter, Option.getD_some, List.forall_mem_cons]
  exact ⟨⟨_, .defaultMode, rfl, rfl⟩, ⟨_, .tableStyle, rfl, rfl⟩, ⟨_, .outputColor, rfl, rfl⟩,
    List.forall_mem_nil _⟩

theorem isPrinted_logging (s : Settings) : ∀ e ∈ s.logging.chapter.own.getD [],
    s.IsPrinted ["logging", e.key] e.value := by
  simp only [LoggingSettings.chapter, LoggingSettings.entries, Option.getD_some,
    List.forall_mem_append, List.forall_mem_cons, Option.mem_toList, Option.map_eq_some_iff]
  refine ⟨⟨⟨⟨_, .enabled, rfl, rfl⟩, ⟨_, .level, rfl, rfl⟩, ⟨_, .format, rfl, rfl⟩,
    ⟨_, .output, rfl, rfl⟩, List.forall_mem_nil _⟩, ?_⟩,
    ⟨_, .loggingColor, rfl, rfl⟩, List.forall_mem_nil _⟩
  rintro e ⟨file, hfile, rfl⟩
  exact ⟨_, .file, rfl, by rw [Item.get, hfile]; rfl⟩

theorem isPrinted_module {s : Settings} (h : s.IsNormal) {m : String × String}
    (hm : m ∈ s.logging.modules) : s.IsPrinted ["logging", "modules", m.1] (.text m.2) := by
  refine ⟨_, .module m.1, rfl, ?_⟩
  rw [Item.get, Keyed.get?_eq_some_of_mem h.modules.nodup_keys hm]
  rfl

theorem isPrinted_override {s : Settings} (h : s.IsNormal) {m : String × Override}
    (hm : m ∈ s.entities) : ∀ e ∈ m.2.entries, s.IsPrinted ["entities", m.1, e.key] e.value := by
  have hget := Keyed.get?_eq_some_of_mem h.entities.nodup_keys hm
  simp only [Override.entries, List.forall_mem_append, Option.mem_toList, Option.map_eq_some_iff]
  constructor
  · rintro e ⟨cs, hcs, rfl⟩
    refine ⟨_, .columns m.1, rfl, ?_⟩
    rw [Item.get, hget, Option.getD_some, hcs]
    rfl
  · rintro e ⟨order, horder, rfl⟩
    refine ⟨_, .order m.1, rfl, ?_⟩
    rw [Item.get, hget, Option.getD_some, horder]
    rfl

/-- The sections of a chapter have settings in them, each at its path. -/
structure Prints (s : Settings) (g : Chapter) : Prop where
  place : IsTablePlace [g.name]
  own : ∀ e ∈ g.own.getD [], s.IsPrinted [g.name, e.key] e.value
  parts : ∀ part ∈ g.parts, IsTablePlace [g.name, part.1] ∧
    ∀ e ∈ part.2, s.IsPrinted [g.name, part.1, e.key] e.value

theorem prints_chapters {s : Settings} (h : s.IsNormal) : ∀ g ∈ s.chapters, s.Prints g := by
  simp only [chapters, List.forall_mem_cons]
  refine ⟨⟨.output, isPrinted_output s, List.forall_mem_nil _⟩,
    ⟨.logging, isPrinted_logging s, ?_⟩, ⟨.entities, ?_, ?_⟩,
    List.forall_mem_nil _⟩
  · simp only [LoggingSettings.chapter, List.forall_mem_cons]
    refine ⟨⟨.modules, fun e he => ?_⟩, List.forall_mem_nil _⟩
    obtain ⟨m, hm, rfl⟩ := List.mem_map.mp he
    exact isPrinted_module h hm
  · rw [own_entityChapter]
    exact List.forall_mem_nil _
  · intro part hpart
    obtain ⟨m, hm, rfl⟩ := List.mem_map.mp hpart
    exact ⟨.entity m.1, isPrinted_override h hm⟩

/-- Every leaf of what is kept is a setting that is kept, or an empty table in which settings
may be. -/
theorem isPrinted_of_gives {s : Settings} {g : Chapter} (hg : s.Prints g)
    {origin : Option String} {leaf : Leaf} (hgives : (g.keep kept).Gives origin leaf) :
    (∃ v, s.IsPrinted leaf.1 v ∧ leaf.2 = ofToml origin v ∧
      kept leaf.1.dropLast ∧ kept leaf.1) ∨
    (IsTablePlace leaf.1 ∧ leaf.2 = Setting.empty) := by
  cases hgives with
  | own he =>
      obtain ⟨hname, hkey, hmem⟩ := mem_own_keep.mp he
      exact .inl ⟨_, hg.own _ hmem, rfl, hname, hkey⟩
  | part hpart he =>
      obtain ⟨part, hmem, hname, rfl⟩ := mem_parts_keep.mp hpart
      rw [List.mem_filter] at he
      exact .inl ⟨_, (hg.parts part hmem).2 _ he.1, rfl, hname, he.2⟩
  | emptyPart hpart hnil =>
      obtain ⟨part, hmem, hname, rfl⟩ := mem_parts_keep.mp hpart
      exact .inr ⟨(hg.parts part hmem).1, rfl⟩
  | empty hown hparts => exact .inr ⟨hg.place, rfl⟩

/-- An entry of a chapter stands for this. -/
inductive Writes (g : Chapter) (path : List String) (v : Toml) : Prop
  | own {e : Assignment} (he : e ∈ g.own.getD []) (hpath : path = [g.name, e.key])
      (hv : e.value = v)
  | part {part : String × List Assignment} {e : Assignment} (hpart : part ∈ g.parts)
      (he : e ∈ part.2) (hpath : path = [g.name, part.1, e.key]) (hv : e.value = v)

theorem exists_override (s : Settings) {β : Type} (get : Override → Option β) (hget : get {} = none)
    {name : String} {b : β} (h : get ((Keyed.get? name s.entities).getD {}) = some b) :
    ∃ o, get o = some b ∧ (name, o.entries) ∈ (entityChapter s.entities).parts := by
  cases hname : Keyed.get? name s.entities with
  | none =>
      rw [hname, Option.getD_none, hget] at h
      cases h
  | some o =>
      rw [hname, Option.getD_some] at h
      exact ⟨o, h, List.mem_map_of_mem (f := fun e => (e.1, e.2.entries))
        (Keyed.mem_of_get? hname)⟩

/-- Every setting that is not unset is written. -/
theorem exists_writes (s : Settings) {α : Type} (x : Item α) {v : Toml}
    (h : x.toToml? (x.get s) = some v) : ∃ g ∈ s.chapters, Writes g x.path v := by
  have houtput := s.output_mem_chapters
  have hlogging := s.logging_mem_chapters
  have hentities := s.entities_mem_chapters
  cases x with
  | defaultMode =>
      exact ⟨_, houtput, .own (List.mem_of_getElem? (i := 0) rfl) rfl (Option.some.inj h)⟩
  | tableStyle =>
      exact ⟨_, houtput, .own (List.mem_of_getElem? (i := 1) rfl) rfl (Option.some.inj h)⟩
  | outputColor =>
      exact ⟨_, houtput, .own (List.mem_of_getElem? (i := 2) rfl) rfl (Option.some.inj h)⟩
  | enabled =>
      exact ⟨_, hlogging, .own (List.mem_of_getElem? (i := 0) rfl) rfl (Option.some.inj h)⟩
  | level =>
      exact ⟨_, hlogging, .own (List.mem_of_getElem? (i := 1) rfl) rfl (Option.some.inj h)⟩
  | format =>
      exact ⟨_, hlogging, .own (List.mem_of_getElem? (i := 2) rfl) rfl (Option.some.inj h)⟩
  | output =>
      exact ⟨_, hlogging, .own (List.mem_of_getElem? (i := 3) rfl) rfl (Option.some.inj h)⟩
  | loggingColor =>
      exact ⟨_, hlogging, .own (List.mem_append_right _ (List.mem_singleton_self _)) rfl
        (Option.some.inj h)⟩
  | file =>
      obtain ⟨file, hfile, hv⟩ := Option.map_eq_some_iff.mp h
      refine ⟨_, hlogging, .own (e := .ofText "file" file) ?_ rfl hv⟩
      refine List.mem_append_left _ (List.mem_append_right _ ?_)
      rw [Option.mem_toList]
      exact Option.map_eq_some_iff.mpr ⟨file, hfile, rfl⟩
  | module name =>
      obtain ⟨level, hlevel, hv⟩ := Option.map_eq_some_iff.mp h
      exact ⟨_, hlogging, .part (List.mem_singleton_self _)
        (List.mem_map_of_mem (Keyed.mem_of_get? hlevel)) rfl hv⟩
  | columns name =>
      obtain ⟨cs, hcs, hv⟩ := Option.map_eq_some_iff.mp h
      obtain ⟨o, ho, hpart⟩ := exists_override s Override.defaultColumns rfl hcs
      have hentry : Assignment.ofTexts "default_columns" (cs.map (·.text)) ∈ o.entries := by
        refine List.mem_append_left _ ?_
        rw [Option.mem_toList]
        exact Option.map_eq_some_iff.mpr ⟨cs, ho, rfl⟩
      exact ⟨_, hentities, .part hpart hentry rfl hv⟩
  | order name =>
      obtain ⟨order, horder, hv⟩ := Option.map_eq_some_iff.mp h
      obtain ⟨o, ho, hpart⟩ := exists_override s Override.defaultSort rfl horder
      have hentry : Assignment.ofText "default_sort" order ∈ o.entries := by
        refine List.mem_append_right _ ?_
        rw [Option.mem_toList]
        exact Option.map_eq_some_iff.mpr ⟨order, ho, rfl⟩
      exact ⟨_, hentities, .part hpart hentry rfl hv⟩

theorem gives_of_writes {g : Chapter} {path : List String} {v : Toml} (h : Writes g path v)
    (htable : kept path.dropLast) (hentry : kept path) (origin : Option String) :
    (g.keep kept).Gives origin (path, ofToml origin v) := by
  cases h with
  | own he hpath hv =>
      subst hpath hv
      exact .own (mem_own_keep.mpr ⟨htable, hentry, he⟩)
  | @part part e hpart he hpath hv =>
      subst hpath hv
      have hkept : (part.1, part.2.filter fun e => kept [g.name, part.1, e.key]) ∈
          (g.keep kept).parts := mem_parts_keep.mpr ⟨part, hpart, htable, rfl⟩
      have hgives := @Gives.part _ origin _ _ hkept (List.mem_filter.mpr ⟨he, hentry⟩)
      exact hgives

theorem gives_of_toToml? {s : Settings} {α : Type} {x : Item α} {v : Toml}
    (h : x.toToml? (x.get s) = some v) (hkept : x.isKept kept) (origin : Option String) :
    ∃ g ∈ s.chapters, (g.keep kept).Gives origin (x.path, ofToml origin v) := by
  obtain ⟨g, hg, hwrites⟩ := exists_writes s x h
  rw [Item.isKept, Bool.and_eq_true] at hkept
  exact ⟨g, hg, gives_of_writes hwrites hkept.1 hkept.2 origin⟩

/-- Nothing is written at a setting that is left out or unset. -/
theorem not_prefix_of_gives {s : Settings} {g : Chapter} (hg : s.Prints g)
    {origin : Option String} {leaf : Leaf} (hgives : (g.keep kept).Gives origin leaf) {α : Type}
    {x : Item α} (hx : ¬ (x.isKept kept ∧ (x.toToml? (x.get s)).isSome)) :
    ¬ x.path <+: leaf.1 := by
  intro hpath
  rcases isPrinted_of_gives hg hgives with ⟨v, ⟨β, y, hy, hv⟩, -, htable, hentry⟩ | ⟨hplace, -⟩
  · rw [← hy] at hpath htable hentry
    cases x.eq_of_prefix y hpath
    exact hx ⟨by rw [Item.isKept, htable, hentry]; rfl, by rw [hv]; rfl⟩
  · exact x.not_isTablePlace (hplace.of_prefix hpath)

theorem isTable_of_gives {s : Settings} {g : Chapter} (hg : s.Prints g) {origin : Option String}
    {leaf : Leaf} (hgives : (g.keep kept).Gives origin leaf) (h : IsTablePlace leaf.1) :
    leaf.2.isTable := by
  rcases isPrinted_of_gives hg hgives with ⟨v, ⟨β, y, hy, hv⟩, -⟩ | ⟨-, hempty⟩
  · rw [← hy] at h
    exact absurd h y.not_isTablePlace
  · rw [hempty]
    rfl

theorem exists_cons_of_gives {g : Chapter} {origin : Option String} {leaf : Leaf}
    (h : g.Gives origin leaf) : ∃ rest, leaf.1 = g.name :: rest := by
  cases h <;> exact ⟨_, rfl⟩

theorem kept_of_gives_entity {entities : Keyed Override} {origin : Option String} {leaf : Leaf}
    (h : ((entityChapter entities).keep kept).Gives origin leaf) {name : String}
    (hpath : ["entities", name] <+: leaf.1) :
    kept ["entities", name] ∧ (Keyed.get? name entities).isSome := by
  have hmem {part : String × List Assignment}
      (hpart : part ∈ ((entityChapter entities).keep kept).parts) (hname : part.1 = name) :
      kept ["entities", name] ∧ (Keyed.get? name entities).isSome := by
    obtain ⟨part', hpart', hkept, rfl⟩ := mem_parts_keep.mp hpart
    obtain ⟨m, hm, rfl⟩ := List.mem_map.mp hpart'
    obtain rfl : m.1 = name := hname
    refine ⟨hkept, Option.isSome_iff_ne_none.mpr fun hnone => ?_⟩
    exact Keyed.get?_eq_none_iff.mp hnone (List.mem_map_of_mem hm)
  cases h with
  | own he =>
      have hnil := (mem_own_keep.mp he).2.2
      rw [own_entityChapter] at hnil
      exact absurd hnil List.not_mem_nil
  | part hpart he =>
      exact hmem hpart (List.cons_prefix_cons.mp (List.cons_prefix_cons.mp hpath).2).1.symm
  | emptyPart hpart hnil =>
      exact hmem hpart (List.cons_prefix_cons.mp (List.cons_prefix_cons.mp hpath).2).1.symm
  | empty hown hparts => simp [List.cons_prefix_cons] at hpath

/-- Below an entity stands something exactly if the entity is kept. -/
theorem gives_entity_iff (s : Settings) (name : String) (origin : Option String) :
    (∃ g ∈ s.chapters, ∃ leaf, (g.keep kept).Gives origin leaf ∧ ["entities", name] <+: leaf.1) ↔
      (Keyed.get? name (s.keep kept).entities).isSome := by
  have hkeep : (Keyed.get? name (s.keep kept).entities).isSome ↔
      kept ["entities", name] ∧ (Keyed.get? name s.entities).isSome := by
    rw [get?_entities_keep]
    by_cases hname : kept ["entities", name] <;> simp [hname]
  rw [hkeep]
  constructor
  · rintro ⟨g, hg, leaf, hgives, hpath⟩
    have hname : g.name = "entities" := by
      obtain ⟨rest, hrest⟩ := exists_cons_of_gives hgives
      rw [hrest, List.cons_prefix_cons] at hpath
      exact hpath.1.symm
    simp only [chapters, List.mem_cons, List.not_mem_nil, or_false] at hg
    rcases hg with rfl | rfl | rfl
    · exact absurd hname (by simp [OutputSettings.chapter])
    · exact absurd hname (by simp [LoggingSettings.chapter])
    · exact kept_of_gives_entity hgives hpath
  · rintro ⟨hname, hsome⟩
    obtain ⟨o, ho⟩ := Option.isSome_iff_exists.mp hsome
    have hpart : (name, o.entries.filter fun e => kept ["entities", name, e.key]) ∈
        ((entityChapter s.entities).keep kept).parts :=
      mem_parts_keep.mpr ⟨(name, o.entries), List.mem_map_of_mem (f := fun e => (e.1, e.2.entries))
        (Keyed.mem_of_get? ho), hname, rfl⟩
    refine ⟨_, s.entities_mem_chapters, ?_⟩
    -- An entity without entries is still there, as an empty table.
    cases hentries : o.entries.filter fun e => kept ["entities", name, e.key] with
    | nil =>
        rw [hentries] at hpart
        exact ⟨_, @Gives.emptyPart _ origin _ hpart rfl, List.prefix_rfl⟩
    | cons e rest =>
        rw [hentries] at hpart
        exact ⟨_, @Gives.part _ origin _ _ hpart List.mem_cons_self, List.prefix_append _ [e.key]⟩

/-! ## A layer of what is kept -/

theorem overlay_of_isName {layer : Layer} (h : ∀ e ∈ layer, Key.IsName e.1) (root : Setting) :
    root.overlay layer = merge layer root := by
  induction layer generalizing root with
  | nil => rfl
  | cons e layer ih =>
      rw [List.forall_mem_cons] at h
      have hput : putAt e.1 e.2 root = put e.1 e.2 root := by
        have hjoin : e.1 = Text.join "." [e.1] := rfl
        rw [hjoin, putAt_join (List.forall_mem_singleton.mpr h.1), assign_single]
        rfl
      rw [merge, ← hput]
      exact ih h.2 _

theorem IsNormal.ascending_keep {s : Settings} (h : s.IsNormal) :
    Keyed.Ascending (s.keep kept).logging.modules ∧ Keyed.Ascending (s.keep kept).entities :=
  ⟨h.modules.filter _, List.pairwise_map.mpr (h.entities.filter _)⟩

section

variable {s : Settings} (h : s.IsNormal) {layer : Layer} {origin : Option String}
    (happart : (entryLeaves layer).Pairwise fun a b => ¬ a.Clashes b)
    (hleaves : ∀ leaf, leaf ∈ entryLeaves layer ↔ ∃ g ∈ s.chapters, (g.keep kept).Gives origin leaf)
include h hleaves

theorem isTable_of_leaf :
    ∀ leaf ∈ entryLeaves layer, IsTablePlace leaf.1 → leaf.2.isTable := by
  intro leaf hleaf
  obtain ⟨g, hg, hgives⟩ := (hleaves leaf).mp hleaf
  exact isTable_of_gives (prints_chapters h g hg) hgives

include happart

/-- Each setting that is kept comes from the layer, and each other one from the defaults. -/
theorem decode_item_of_leaves {α : Type} (x : Item α) :
    x.decode.withDefault (x.get {}) (at? x.path (merge layer defaultTree)) =
      .ok (x.get (s.keep kept)) := by
  have htree := setAll_entryLeaves layer defaultTree
  rw [x.get_keep, Item.keep]
  by_cases hx : x.isKept kept ∧ (x.toToml? (x.get s)).isSome
  · obtain ⟨v, hv⟩ := Option.isSome_iff_exists.mp hx.2
    have hmem := (hleaves _).mpr (gives_of_toToml? hv hx.1 origin)
    have hat := setAll_value happart hmem (x.noTable_of_toToml? hv origin) (some defaultTree)
    rw [htree, Option.bind_some] at hat
    rw [hat, if_pos hx.1]
    exact x.decode_of_toToml? hv origin
  · -- What is left out or unset has at most empty tables above it.
    have hspared : ∀ leaf ∈ entryLeaves layer,
        ¬ x.path <+: leaf.1 ∧ (leaf.1 <+: x.path → leaf.2.isTable) := by
      intro leaf hleaf
      obtain ⟨g, hg, hgives⟩ := (hleaves leaf).mp hleaf
      have hbelow := not_prefix_of_gives (prints_chapters h g hg) hgives hx
      refine ⟨hbelow, fun habove => ?_⟩
      refine isTable_of_leaf h hleaves leaf hleaf (x.isTablePlace_of_prefix habove ?_)
      intro heq
      exact hbelow (heq ▸ List.prefix_rfl)
    have hat := setAll_unchanged hspared (some defaultTree)
    rw [htree, Option.bind_some, Option.bind_some] at hat
    rw [hat, x.withDefault_defaultTree]
    split
    · rename_i hkept
      have hnone : x.toToml? (x.get s) = none := by
        by_contra hsome
        exact hx ⟨hkept, Option.isSome_iff_ne_none.mpr hsome⟩
      rw [x.eq_default_of_toToml? hnone]
    · rfl

theorem isSome_entity_of_leaves (name : String) :
    (at? ["entities", name] (merge layer defaultTree)).isSome =
      (Keyed.get? name (s.keep kept).entities).isSome := by
  have htree := setAll_entryLeaves layer defaultTree
  rw [Bool.eq_iff_iff, ← gives_entity_iff s name origin]
  constructor
  · intro hsome
    by_contra hnone
    have hspared : ∀ leaf ∈ entryLeaves layer,
        ¬ ["entities", name] <+: leaf.1 ∧ (leaf.1 <+: ["entities", name] → leaf.2.isTable) := by
      intro leaf hleaf
      obtain ⟨g, hg, hgives⟩ := (hleaves leaf).mp hleaf
      refine ⟨fun hbelow => hnone ⟨g, hg, leaf, hgives, hbelow⟩, fun habove => ?_⟩
      exact isTable_of_leaf h hleaves leaf hleaf (IsTablePlace.of_prefix (.entity name) habove)
    have hat := setAll_unchanged hspared (some defaultTree)
    rw [htree, Option.bind_some] at hat
    rw [hat] at hsome
    cases hsome
  · rintro ⟨g, hg, leaf, hgives, rest, hrest⟩
    have hmem : (["entities", name] ++ rest, leaf.2) ∈ entryLeaves layer := by
      rw [hrest]
      exact (hleaves leaf).mpr ⟨g, hg, hgives⟩
    have hat := setAll_ne_none happart hmem (some defaultTree)
    rw [htree] at hat
    exact Option.isSome_iff_ne_none.mpr hat

theorem decode_of_leaves : decode (merge layer defaultTree) = .ok (s.keep kept) := by
  refine decode_of_items (fun path hpath => ?_) (decode_item_of_leaves h happart hleaves)
    h.ascending_keep.1 h.ascending_keep.2 (isSome_entity_of_leaves h happart hleaves)
  have hold : ∀ v ∈ (some defaultTree).bind (at? path), IsRecord v := isRecord_defaultTree hpath
  have hkept := setAll_isRecord (fun leaf hleaf hinitial =>
    isTable_of_leaf h hleaves leaf hleaf (hpath.of_prefix hinitial)) hold
  rwa [setAll_entryLeaves] at hkept

end

end Settings

end RecordListing
