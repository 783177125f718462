import RecordListing.Proofs.SettingLayers
import RecordListing.Proofs.SettingsByItems
import RecordListing.Proofs.TomlLeaves

namespace RecordListing

/-!
# The sections of settings

Settings are written as three chapters of sections. Sections and entries may be left out of a
document; what is left has the same shape as before.
-/

namespace Toml

/-! ## A part of a document -/

/-- The sections at the paths that are kept, with the entries at the paths that are kept. -/
def keptSections (kept : List String → Bool) (sections : List Section) : List Section :=
  (sections.filter fun s => kept s.path).map fun s =>
    { s with entries := s.entries.filter fun e => kept (s.path ++ [e.1]) }

namespace Chapter

def keep (kept : List String → Bool) (g : Chapter) : Chapter where
  name := g.name
  own :=
    if kept [g.name] then g.own.map fun entries => entries.filter fun e => kept [g.name, e.key]
    else none
  parts := (g.parts.filter fun part => kept [g.name, part.1]).map fun part =>
    (part.1, part.2.filter fun e => kept [g.name, part.1, e.key])

variable {kept : List String → Bool}

theorem own_keep (g : Chapter) : (g.keep kept).own.getD [] =
    if kept [g.name] then (g.own.getD []).filter fun e => kept [g.name, e.key] else [] := by
  unfold keep
  cases g.own with
  | none => simp
  | some entries => by_cases hname : kept [g.name] <;> simp [hname]

theorem mem_own_keep {g : Chapter} {e : Assignment} : e ∈ (g.keep kept).own.getD [] ↔
    kept [g.name] ∧ kept [g.name, e.key] ∧ e ∈ g.own.getD [] := by
  rw [own_keep]
  by_cases hname : kept [g.name] <;> simp [hname, and_comm]

theorem mem_parts_keep {g : Chapter} {part : String × List Assignment} :
    part ∈ (g.keep kept).parts ↔ ∃ part' ∈ g.parts, kept [g.name, part'.1] ∧
      (part'.1, part'.2.filter fun e => kept [g.name, part'.1, e.key]) = part := by
  simp [keep, and_assoc]

theorem HasOwnKeys.keep {g : Chapter} (h : g.HasOwnKeys) : (g.keep kept).HasOwnKeys where
  members := by
    refine h.members.sublist (List.Sublist.append ?_ ?_)
    · rw [own_keep]
      split
      · exact List.filter_sublist.map _
      · exact List.nil_sublist _
    · simpa [Chapter.keep, Function.comp_def] using List.filter_sublist.map Prod.fst
  parts part hpart := by
    obtain ⟨part', hmem, -, rfl⟩ := mem_parts_keep.mp hpart
    exact (h.parts part' hmem).sublist (List.filter_sublist.map _)

theorem IsOrdinary.keep {g : Chapter} (h : g.IsOrdinary) : (g.keep kept).IsOrdinary where
  toHasOwnKeys := h.toHasOwnKeys.keep
  name := h.name
  own e he := h.own e (mem_own_keep.mp he).2.2
  inParts part hpart := by
    obtain ⟨part', hmem, -, rfl⟩ := mem_parts_keep.mp hpart
    obtain ⟨hname, hentries⟩ := h.inParts part' hmem
    exact ⟨hname, fun e he => hentries e (List.mem_of_mem_filter he)⟩

end Chapter

variable {kept : List String → Bool}

theorem keptSections_append (sections sections' : List Section) :
    keptSections kept (sections ++ sections') =
      keptSections kept sections ++ keptSections kept sections' := by
  simp [keptSections]

theorem keptSections_blocks (g : Chapter) :
    keptSections kept (g.blocks.map Block.toSection) =
      (g.keep kept).blocks.map Block.toSection := by
  have hparts : keptSections kept (g.parts.map fun part =>
        Block.toSection ⟨[g.name], part.1, part.2⟩) =
      (g.keep kept).parts.map fun part => Block.toSection ⟨[g.name], part.1, part.2⟩ := by
    simp [keptSections, Chapter.keep, List.filter_map, Function.comp_def, Block.toSection,
      Block.path]
  rw [Chapter.blocks, Chapter.blocks, List.map_append, List.map_append, keptSections_append,
    List.map_map, List.map_map]
  refine congrArg₂ _ ?_ hparts
  cases hown : g.own with
  | none => simp [keptSections, Chapter.keep, hown]
  | some entries =>
      by_cases hname : kept [g.name] <;>
        simp [keptSections, Chapter.keep, hown, hname, List.filter_map, Function.comp_def,
          Block.toSection, Block.path]

theorem keptSections_chapters (chapters : List Chapter) :
    keptSections kept ((chapters.flatMap Chapter.blocks).map Block.toSection) =
      ((chapters.map (Chapter.keep kept)).flatMap Chapter.blocks).map Block.toSection := by
  induction chapters with
  | nil => rfl
  | cons g chapters ih =>
      rw [List.flatMap_cons, List.map_append, keptSections_append, keptSections_blocks, ih,
        List.map_cons, List.flatMap_cons, List.map_append]

/-! ## Entries -/

def Assignment.ofText (key s : String) : Assignment := ⟨key, textForm s, .text s⟩

def Assignment.ofSwitch (key : String) (b : Bool) : Assignment := ⟨key, switchForm b, .bool b⟩

def Assignment.ofTexts (key : String) (texts : List String) : Assignment :=
  ⟨key, arrayForm (texts.map textForm), .array (texts.map .text)⟩

theorem Assignment.isOrdinary_ofText {key : String} (h : Text.lower key = key) (s : String) :
    (ofText key s).IsOrdinary where
  shown := shows_textForm _ s
  key := h
  value := isOrdinary_text s
  noTable _ := rfl

theorem Assignment.isOrdinary_ofSwitch {key : String} (h : Text.lower key = key) (b : Bool) :
    (ofSwitch key b).IsOrdinary where
  shown := shows_switchForm _ b
  key := h
  value := isOrdinary_bool b
  noTable _ := rfl

theorem Assignment.isOrdinary_ofTexts {key : String} (h : Text.lower key = key)
    (texts : List String) :
    (ofTexts key texts).IsOrdinary where
  shown := by
    refine shows_arrayForm ?_
    induction texts with
    | nil => exact .nil
    | cons s texts ih => exact .cons (shows_textForm _ s) ih
  key := h
  value := isOrdinary_texts texts
  noTable _ := rfl

end Toml

open Toml

/-! ## The chapters of settings -/

def OutputSettings.chapter (o : OutputSettings) : Chapter where
  name := "output"
  own := some [.ofText "default_mode" o.defaultMode.name, .ofText "table_style" o.tableStyle.name,
    .ofSwitch "color" o.color]
  parts := []

def LoggingSettings.entries (l : LoggingSettings) : List Assignment :=
  [.ofSwitch "enabled" l.enabled, .ofText "level" l.level, .ofText "format" l.format,
    .ofText "output" l.output] ++
  (l.file.map (.ofText "file")).toList ++ [.ofSwitch "color" l.color]

def LoggingSettings.chapter (l : LoggingSettings) : Chapter where
  name := "logging"
  own := some l.entries
  parts := [("modules", l.modules.map fun m => .ofText m.1 m.2)]

def Override.entries (o : Override) : List Assignment :=
  (o.defaultColumns.map fun cs => Assignment.ofTexts "default_columns" (cs.map (·.text))).toList ++
    (o.defaultSort.map (.ofText "default_sort")).toList

def entityChapter (entities : Keyed Override) : Chapter where
  name := "entities"
  own := if entities.isEmpty then some [] else none
  parts := entities.map fun e => (e.1, e.2.entries)

namespace Settings

def chapters (s : Settings) : List Chapter :=
  [s.output.chapter, s.logging.chapter, entityChapter s.entities]

theorem output_mem_chapters (s : Settings) : s.output.chapter ∈ s.chapters := List.mem_cons_self

theorem logging_mem_chapters (s : Settings) : s.logging.chapter ∈ s.chapters :=
  List.mem_cons_of_mem _ List.mem_cons_self

theorem entities_mem_chapters (s : Settings) : entityChapter s.entities ∈ s.chapters :=
  List.mem_cons_of_mem _ (List.mem_cons_of_mem _ List.mem_cons_self)

theorem tomlSection_override (name : String) (o : Override) :
    o.tomlSection name = Block.toSection ⟨["entities"], name, o.entries⟩ := by
  obtain ⟨columns, order⟩ := o
  have harray (cs : List ColumnName) : arrayForm (cs.map fun c => textForm c.text) =
      arrayForm ((cs.map (·.text)).map textForm) := by
    rw [List.map_map]
    rfl
  cases columns with
  | none => cases order <;> rfl
  | some cs =>
      rw [Override.tomlSection, Option.map_some, harray]
      cases order <;> rfl

theorem tomlSections_logging (l : LoggingSettings) :
    l.tomlSections = l.chapter.blocks.map Block.toSection := by
  obtain ⟨enabled, level, format, output, file, color, modules⟩ := l
  have hmodules : (modules.map fun m => (m.1, textForm m.2)) =
      (modules.map fun m => Assignment.ofText m.1 m.2).map fun e => (e.key, e.form) := by
    rw [List.map_map]
    rfl
  rw [LoggingSettings.tomlSections, hmodules]
  cases file <;> rfl

theorem tomlSections_entities (entities : Keyed Override) :
    (if entities.isEmpty then [⟨["entities"], []⟩]
      else entities.map fun e => e.2.tomlSection e.1) =
    (entityChapter entities).blocks.map Block.toSection := by
  cases entities with
  | nil => rfl
  | cons e rest => simp [entityChapter, Chapter.blocks, tomlSection_override]

theorem tomlSections_eq (s : Settings) :
    s.tomlSections = (s.chapters.flatMap Chapter.blocks).map Block.toSection := by
  rw [tomlSections, tomlSections_logging, tomlSections_entities]
  simp [chapters, OutputSettings.chapter, Chapter.blocks]
  rfl

/-- The names of modules and entities are in lower case and stand in their order, each once. -/
structure IsNormal (s : Settings) : Prop where
  modules : Keyed.Ascending s.logging.modules
  entities : Keyed.Ascending s.entities
  moduleNames : ∀ m ∈ s.logging.modules, Text.lower m.1 = m.1
  entityNames : ∀ e ∈ s.entities, Text.lower e.1 = e.1

theorem isOrdinary_output (o : OutputSettings) : o.chapter.IsOrdinary where
  members := (by decide : ["default_mode", "table_style", "color"].Nodup)
  parts part hpart := absurd hpart List.not_mem_nil
  name := Setting.lower_of_mem_plainNames "output" (by decide)
  own := by
    have hlower := Setting.lower_of_mem_plainNames
    simp only [OutputSettings.chapter, Option.getD_some, List.forall_mem_cons]
    exact ⟨Assignment.isOrdinary_ofText (hlower _ (by decide)) _,
      Assignment.isOrdinary_ofText (hlower _ (by decide)) _,
      Assignment.isOrdinary_ofSwitch (hlower _ (by decide)) _,
      List.forall_mem_nil _⟩
  inParts part hpart := absurd hpart List.not_mem_nil

theorem isOrdinary_logging {l : LoggingSettings} (hmodules : Keyed.Ascending l.modules)
    (hnames : ∀ m ∈ l.modules, Text.lower m.1 = m.1) : l.chapter.IsOrdinary where
  members := by
    have hkeys : l.entries.map (·.key) ++ ["modules"] =
        ["enabled", "level", "format", "output"] ++ (l.file.map fun _ => "file").toList ++
          ["color", "modules"] := by
      cases hfile : l.file <;>
        simp [LoggingSettings.entries, hfile, Assignment.ofText, Assignment.ofSwitch]
    change (l.entries.map (·.key) ++ ["modules"]).Nodup
    rw [hkeys]
    cases l.file <;> simp
  parts := by
    simp only [LoggingSettings.chapter, List.forall_mem_cons]
    refine ⟨?_, List.forall_mem_nil _⟩
    simpa [Function.comp_def, Assignment.ofText] using hmodules.nodup_keys
  name := Setting.lower_of_mem_plainNames "logging" (by decide)
  own := by
    have hlower := Setting.lower_of_mem_plainNames
    simp only [LoggingSettings.chapter, LoggingSettings.entries, Option.getD_some,
      List.forall_mem_append, List.forall_mem_cons, Option.mem_toList, Option.map_eq_some_iff]
    refine ⟨⟨⟨Assignment.isOrdinary_ofSwitch (hlower _ (by decide)) _,
      Assignment.isOrdinary_ofText (hlower _ (by decide)) _,
      Assignment.isOrdinary_ofText (hlower _ (by decide)) _,
      Assignment.isOrdinary_ofText (hlower _ (by decide)) _,
      List.forall_mem_nil _⟩, ?_⟩,
      Assignment.isOrdinary_ofSwitch (hlower _ (by decide)) _,
      List.forall_mem_nil _⟩
    rintro e ⟨file, -, rfl⟩
    exact Assignment.isOrdinary_ofText (hlower _ (by decide)) file
  inParts := by
    simp only [LoggingSettings.chapter, List.forall_mem_cons]
    refine ⟨⟨Setting.lower_of_mem_plainNames _ (by decide), fun e he => ?_⟩,
      List.forall_mem_nil _⟩
    obtain ⟨m, hm, rfl⟩ := List.mem_map.mp he
    exact Assignment.isOrdinary_ofText (hnames m hm) m.2

theorem isOrdinary_override (o : Override) : ∀ e ∈ o.entries, e.IsOrdinary := by
  simp only [Override.entries, List.forall_mem_append, Option.mem_toList, Option.map_eq_some_iff]
  constructor
  · rintro e ⟨cs, -, rfl⟩
    exact Assignment.isOrdinary_ofTexts (Setting.lower_of_mem_plainNames _ (by decide)) _
  · rintro e ⟨order, -, rfl⟩
    exact Assignment.isOrdinary_ofText (Setting.lower_of_mem_plainNames _ (by decide)) order

theorem nodup_override (o : Override) : (o.entries.map (·.key)).Nodup := by
  obtain ⟨columns, order⟩ := o
  cases columns <;> cases order <;>
    simp [Override.entries, Assignment.ofTexts, Assignment.ofText]

theorem own_entityChapter (entities : Keyed Override) :
    (entityChapter entities).own.getD [] = [] := by
  unfold entityChapter
  split <;> rfl

theorem isOrdinary_entities {entities : Keyed Override} (h : Keyed.Ascending entities)
    (hnames : ∀ e ∈ entities, Text.lower e.1 = e.1) : (entityChapter entities).IsOrdinary where
  members := by
    rw [own_entityChapter]
    simpa [entityChapter, Function.comp_def] using h.nodup_keys
  parts part hpart := by
    obtain ⟨e, -, rfl⟩ := List.mem_map.mp hpart
    exact nodup_override e.2
  name := Setting.lower_of_mem_plainNames "entities" (by decide)
  own e he := by
    rw [own_entityChapter] at he
    exact absurd he List.not_mem_nil
  inParts part hpart := by
    obtain ⟨e, he, rfl⟩ := List.mem_map.mp hpart
    exact ⟨hnames e he, isOrdinary_override e.2⟩

theorem isOrdinary_chapters {s : Settings} (h : s.IsNormal) : ∀ g ∈ s.chapters, g.IsOrdinary := by
  simp only [chapters, List.forall_mem_cons]
  exact ⟨isOrdinary_output s.output, isOrdinary_logging h.modules h.moduleNames,
    isOrdinary_entities h.entities h.entityNames, List.forall_mem_nil _⟩

end Settings

end RecordListing
