import Mathlib.Data.List.Nodup
import Mathlib.Data.String.Basic
import RecordListing.Proofs.DecodedSettings

namespace RecordListing

/-!
# Settings known by their items

A tree converts if each of the settings in it does. What comes of it is known from the
settings one by one, since the entries of maps stand in the order of their keys.
-/

open Setting

/-! ## Entries in the order of their keys -/

namespace Keyed

variable {α : Type}

/-- The keys ascend, so every key stands once. -/
def Ascending (entries : Keyed α) : Prop := entries.Pairwise fun a b => a.1 < b.1

instance (entries : Keyed α) : Decidable (Ascending entries) :=
  inferInstanceAs (Decidable (entries.Pairwise fun a b => a.1 < b.1))

namespace Ascending

variable {entries entries' : Keyed α}

theorem nodup_keys (h : Ascending entries) : (entries.map (·.1)).Nodup :=
  List.pairwise_map.mpr (h.imp fun hlt => ne_of_lt hlt)

theorem insertSorted (h : Ascending entries) {key : String} (hkey : get? key entries = none)
    (value : α) : Ascending (insertSorted key value entries) := by
  induction entries with
  | nil => exact List.pairwise_singleton _ _
  | cons m rest ih =>
      obtain ⟨k, v⟩ := m
      obtain ⟨hfirst, hrest⟩ := List.pairwise_cons.mp h
      have hne : k ≠ key := by
        rintro rfl
        simp [get?] at hkey
      rw [get?, if_neg hne] at hkey
      rw [Keyed.insertSorted]
      split
      · rename_i hlt
        refine List.pairwise_cons.mpr ⟨?_, h⟩
        rw [List.forall_mem_cons]
        exact ⟨hlt, fun e he => hlt.trans (hfirst e he)⟩
      · rename_i hnot
        refine List.pairwise_cons.mpr ⟨fun e he => ?_, ih hrest hkey⟩
        rcases List.mem_cons.mp ((insertSorted_perm key value rest).mem_iff.mp he) with rfl | he
        · exact lt_of_le_of_ne (not_lt.mp hnot) hne
        · exact hfirst e he

theorem put (h : Ascending entries) (key : String) (value : α) :
    Ascending (put key value entries) := by
  cases hget : get? key entries with
  | none =>
      rw [put_of_none hget]
      exact h.insertSorted hget value
  | some old =>
      have hkeys := List.pairwise_map.mpr h
      rw [put_of_some hget]
      rw [← replace_keys key value] at hkeys
      exact List.pairwise_map.mp hkeys

/-- Entries in the order of their keys are known by what stands at each key. -/
theorem ext (h : Ascending entries) (h' : Ascending entries')
    (hget : ∀ key, get? key entries = get? key entries') : entries = entries' := by
  have hmem : ∀ e : String × α, e ∈ entries ↔ e ∈ entries' := by
    rintro ⟨key, v⟩
    constructor
    · intro he
      exact mem_of_get? (hget key ▸ get?_eq_some_of_mem h.nodup_keys he)
    · intro he
      exact mem_of_get? (hget key ▸ get?_eq_some_of_mem h'.nodup_keys he)
  have hnodup {es : Keyed α} (hes : Ascending es) : es.Nodup := hes.nodup_keys.of_map
  have hperm := (List.perm_ext_iff_of_nodup (hnodup h) (hnodup h')).mpr hmem
  exact hperm.eq_of_pairwise (fun a b _ _ hab hba => absurd (hab.trans hba) (lt_irrefl _)) h h'

end Ascending

end Keyed

/-! ## What converts -/

namespace Decoder

variable {σ α β : Type}

/-- What is missing is accepted too. -/
def Accepts (decode : Decoder α) (old : Option Setting) : Prop :=
  ∀ v ∈ old, ∃ a, decode v = .ok a

theorem Accepts.of_withDefault {decode : Decoder α} {default a : α} {old : Option Setting}
    (h : decode.withDefault default old = .ok a) : decode.Accepts old := by
  rintro v rfl
  exact ⟨a, h⟩

theorem Accepts.of_present {decode : Decoder α} {old : Option Setting}
    (h : decode.present.Accepts old) : decode.Accepts old := by
  intro v hv
  obtain ⟨a, ha⟩ := h v hv
  rw [present] at ha
  cases hvalue : decode v with
  | error e =>
      rw [hvalue] at ha
      cases ha
  | ok b => exact ⟨b, rfl⟩

theorem exists_decode_field {decode : Decoder β} {v : Setting} (h : ∃ b, decode v = .ok b)
    (name : String) (set : β → σ → σ) (s : σ) :
    ∃ s', (field name decode set).decode s v = .ok s' := by
  obtain ⟨b, hb⟩ := h
  exact ⟨set b s, by simp [field, hb, Except.map]⟩

theorem exists_decodeFields {fields : List (Field σ)} {entries : List (String × Setting)}
    (h : ∀ f ∈ fields, ∀ v, (f.name, v) ∈ entries → ∀ s, ∃ s', f.decode s v = .ok s') (start : σ) :
    ∃ s, decodeFields fields entries start = .ok s := by
  induction entries generalizing start with
  | nil => exact ⟨start, rfl⟩
  | cons entry rest ih =>
      have hrest := ih fun f hf w hw => h f hf w (List.mem_cons_of_mem _ hw)
      cases hfind : fields.find? fun f => f.name = entry.1 with
      | none =>
          obtain ⟨s, hs⟩ := hrest start
          exact ⟨s, decodeFields_cons_eq_ok.mpr ⟨start, .inl ⟨hfind, rfl⟩, hs⟩⟩
      | some f =>
          have hname : f.name = entry.1 := by simpa using List.find?_some hfind
          obtain ⟨next, hnext⟩ :=
            h f (List.mem_of_find?_eq_some hfind) entry.2 (hname ▸ List.mem_cons_self) start
          obtain ⟨s, hs⟩ := hrest next
          exact ⟨s, decodeFields_cons_eq_ok.mpr ⟨next, .inr ⟨f, hfind, hnext⟩, hs⟩⟩

theorem exists_decode_of_decodeFields {fields : List (Field σ)}
    {entries : List (String × Setting)} {start s : σ}
    (h : decodeFields fields entries start = .ok s) {key : String} {v : Setting} {f : Field σ}
    (hmem : (key, v) ∈ entries) (hfind : fields.find? (fun f => f.name = key) = some f) :
    ∃ s₁ s₂, f.decode s₁ v = .ok s₂ := by
  induction entries generalizing start with
  | nil => exact absurd hmem List.not_mem_nil
  | cons e rest ih =>
      obtain ⟨next, hstep, hdecoded⟩ := decodeFields_cons_eq_ok.mp h
      rcases List.mem_cons.mp hmem with rfl | hrest
      · rcases hstep with ⟨hnone, -⟩ | ⟨g, hg, hvalue⟩
        · cases hfind.symm.trans hnone
        · cases hfind.symm.trans hg
          exact ⟨start, next, hvalue⟩
      · exact ih hdecoded hrest

/-- A record that is merged from a table converts only if each of its fields does. -/
theorem exists_decode_of_merge {type : String} {start s : σ} {fields : List (Field σ)}
    {es base : List (String × Setting)} {origin : Option String}
    (h : record type start fields (merge es (.table origin base)) = .ok s) {key : String}
    {v : Setting} {f : Field σ}
    (hget : Keyed.get? key (merge es (.table origin base)).entries = some v)
    (hfind : fields.find? (fun f => f.name = key) = some f) :
    ∃ s₁ s₂, f.decode s₁ v = .ok s₂ := by
  obtain ⟨entries, hentries⟩ := merge_eq_table es origin base
  rw [hentries] at h hget
  exact exists_decode_of_decodeFields h (Keyed.mem_of_get? hget) hfind

theorem exists_decodeEntries {decode : Decoder α} {entries : List (String × Setting)}
    (h : ∀ e ∈ entries, ∃ a, decode e.2 = .ok a) :
    ∃ values, decodeEntries decode entries = .ok values := by
  induction entries with
  | nil => exact ⟨[], rfl⟩
  | cons entry rest ih =>
      rw [List.forall_mem_cons] at h
      obtain ⟨a, ha⟩ := h.1
      obtain ⟨values, hvalues⟩ := ih h.2
      exact ⟨_, decodeEntries_cons_eq_ok.mpr ⟨a, values, ha, hvalues, rfl⟩⟩

theorem ascending_of_decodeEntries {decode : Decoder α} {entries : List (String × Setting)}
    {values : Keyed α} (h : decodeEntries decode entries = .ok values) :
    Keyed.Ascending values := by
  induction entries generalizing values with
  | nil =>
      obtain rfl : [] = values := Except.ok.inj h
      exact .nil
  | cons entry rest ih =>
      obtain ⟨a, others, -, hrest, rfl⟩ := decodeEntries_cons_eq_ok.mp h
      exact (ih hrest).put entry.1 a

section

variable {path : List String} {tree : Setting} (htable : ∀ v ∈ at? path tree, IsRecord v)
include htable

theorem accepts_record {type : String} {start : σ} {fields : List (Field σ)}
    (h : ∀ f ∈ fields, ∀ v ∈ at? (path ++ [f.name]) tree, ∀ s, ∃ s', f.decode s v = .ok s') :
    (record type start fields).Accepts (at? path tree) := by
  intro v hv
  obtain ⟨origin, entries, rfl, hkeys⟩ := (htable v hv).exists_eq
  refine exists_decodeFields (fun f hf w hw => h f hf w ?_) start
  rw [at?_append, hv, Option.bind_some, at?_single]
  exact Keyed.get?_eq_some_of_mem hkeys hw

theorem accepts_map {decode : Decoder α} (h : ∀ key, decode.Accepts (at? (path ++ [key]) tree)) :
    (map decode).Accepts (at? path tree) := by
  intro v hv
  obtain ⟨origin, entries, rfl, hkeys⟩ := (htable v hv).exists_eq
  refine exists_decodeEntries fun e he => h e.1 e.2 ?_
  rw [at?_append, hv, Option.bind_some, at?_single]
  exact Keyed.get?_eq_some_of_mem hkeys he

end

theorem ascending_of_map {decode : Decoder α} {old : Option Setting} {values : Keyed α}
    (h : (map decode).withDefault [] old = .ok values) : Keyed.Ascending values := by
  cases old with
  | none =>
      obtain rfl : [] = values := Except.ok.inj h
      exact .nil
  | some v =>
      cases v with
      | scalar origin w => cases h
      | list origin items => cases h
      | table origin entries => exact ascending_of_decodeEntries h

theorem isSome_of_map {decode : Decoder α} {values : Keyed α} {path : List String}
    {tree : Setting} (h : (map decode).withDefault [] (at? path tree) = .ok values)
    (key : String) : (Keyed.get? key values).isSome = (at? (path ++ [key]) tree).isSome := by
  have hget := map_get h key
  cases hat : at? (path ++ [key]) tree with
  | none =>
      rw [hat] at hget
      obtain hnone : none = Keyed.get? key values := Except.ok.inj hget
      rw [← hnone]
      rfl
  | some v =>
      rw [hat, withDefault, present] at hget
      cases hvalue : decode v with
      | error e =>
          rw [hvalue] at hget
          cases hget
      | ok a =>
          rw [hvalue] at hget
          obtain hsome : some a = Keyed.get? key values := Except.ok.inj hget
          rw [← hsome]
          rfl

end Decoder

open Decoder

namespace Settings

/-- Settings with their entries in the order of keys are known by their items and by the names
of the entities. -/
theorem ext_items {s s' : Settings} (h : ∀ {α : Type} (x : Item α), x.get s = x.get s')
    (hmodules : Keyed.Ascending s.logging.modules)
    (hmodules' : Keyed.Ascending s'.logging.modules)
    (hentities : Keyed.Ascending s.entities) (hentities' : Keyed.Ascending s'.entities)
    (hnames : ∀ name, (Keyed.get? name s.entities).isSome =
      (Keyed.get? name s'.entities).isSome) : s = s' := by
  obtain ⟨⟨mode, style, color⟩, ⟨enabled, level, format, output, file, color', modules⟩,
    entities⟩ := s
  obtain ⟨⟨_, _, _⟩, ⟨_, _, _, _, _, _, modules'⟩, entities'⟩ := s'
  cases h .defaultMode
  cases h .tableStyle
  cases h .outputColor
  cases h .enabled
  cases h .level
  cases h .format
  cases h .output
  cases h .file
  cases h .loggingColor
  obtain rfl : modules = modules' := hmodules.ext hmodules' fun name => h (.module name)
  obtain rfl : entities = entities' := by
    refine hentities.ext hentities' fun name => ?_
    have hcolumns := h (.columns name)
    have horder := h (.order name)
    have hname := hnames name
    simp only [Item.get] at hcolumns horder hname
    cases hget : Keyed.get? name entities with
    | none =>
        rw [hget] at hname
        exact (Option.not_isSome_iff_eq_none.mp (by simp [← hname])).symm
    | some o =>
        rw [hget] at hname hcolumns horder
        obtain ⟨o', ho'⟩ := Option.isSome_iff_exists.mp hname.symm
        rw [ho'] at hcolumns horder
        cases o
        cases o'
        cases hcolumns
        cases horder
        rw [ho']
  rfl

theorem exists_decode {tree : Setting}
    (htables : ∀ path, IsTablePlace path → ∀ v ∈ at? path tree, IsRecord v)
    (hitems : ∀ {α : Type} (x : Item α), x.decode.Accepts (at? x.path tree)) :
    ∃ s, decode tree = .ok s := by
  have houtput : OutputSettings.decode.Accepts (at? ["output"] tree) := by
    refine accepts_record (htables _ .output) ?_
    simp only [List.forall_mem_cons]
    exact ⟨fun v hv => exists_decode_field (hitems .defaultMode v hv) _ _,
      fun v hv => exists_decode_field (hitems .tableStyle v hv) _ _,
      fun v hv => exists_decode_field (hitems .outputColor v hv) _ _,
      List.forall_mem_nil _⟩
  have hmodules : (map text).Accepts (at? ["logging", "modules"] tree) :=
    accepts_map (htables _ .modules) fun key => (hitems (.module key)).of_present
  have hlogging : LoggingSettings.decode.Accepts (at? ["logging"] tree) := by
    refine accepts_record (htables _ .logging) ?_
    simp only [List.forall_mem_cons]
    exact ⟨fun v hv => exists_decode_field (hitems .enabled v hv) _ _,
      fun v hv => exists_decode_field (hitems .level v hv) _ _,
      fun v hv => exists_decode_field (hitems .format v hv) _ _,
      fun v hv => exists_decode_field (hitems .output v hv) _ _,
      fun v hv => exists_decode_field (hitems .file v hv) _ _,
      fun v hv => exists_decode_field (hitems .loggingColor v hv) _ _,
      fun v hv => exists_decode_field (hmodules v hv) _ _,
      List.forall_mem_nil _⟩
  have hentity (name : String) : Override.decode.Accepts (at? ["entities", name] tree) := by
    refine accepts_record (htables _ (.entity name)) ?_
    simp only [List.forall_mem_cons]
    exact ⟨fun v hv => exists_decode_field (hitems (.columns name) v hv) _ _,
      fun v hv => exists_decode_field (hitems (.order name) v hv) _ _,
      List.forall_mem_nil _⟩
  have hentities : (map Override.decode).Accepts (at? ["entities"] tree) :=
    accepts_map (htables _ .entities) hentity
  have htree : Settings.decode.Accepts (at? [] tree) := by
    refine accepts_record (htables _ .root) ?_
    simp only [List.forall_mem_cons]
    exact ⟨fun v hv => exists_decode_field (houtput v hv) _ _,
      fun v hv => exists_decode_field (hlogging v hv) _ _,
      fun v hv => exists_decode_field (hentities v hv) _ _,
      List.forall_mem_nil _⟩
  exact htree tree rfl

/-- A tree with tables where settings are in tables converts to the settings that its items
convert to. -/
theorem decode_of_items {tree : Setting} {s : Settings}
    (htables : ∀ path, IsTablePlace path → ∀ v ∈ at? path tree, IsRecord v)
    (hitems : ∀ {α : Type} (x : Item α),
      x.decode.withDefault (x.get {}) (at? x.path tree) = .ok (x.get s))
    (hmodules : Keyed.Ascending s.logging.modules) (hentities : Keyed.Ascending s.entities)
    (hnames : ∀ name, (at? ["entities", name] tree).isSome =
      (Keyed.get? name s.entities).isSome) : decode tree = .ok s := by
  obtain ⟨s', hs'⟩ := exists_decode htables fun x => .of_withDefault (hitems x)
  have htree : Settings.decode.withDefault {} (at? [] tree) = .ok s' := hs'
  obtain ⟨-, hlogging, hentities'⟩ := Settings.of_decode htree (htables [] .root)
  obtain ⟨-, -, -, -, -, -, hmodules'⟩ := LoggingSettings.of_decode hlogging (htables _ .logging)
  have heq : s' = s := by
    refine ext_items (fun x => ?_) (ascending_of_map hmodules') hmodules
      (ascending_of_map hentities') hentities fun name => ?_
    · exact Except.ok.inj ((x.of_decode hs' htables).symm.trans (hitems x))
    · exact (isSome_of_map hentities' name).trans (hnames name)
  rw [hs', heq]

end Settings

end RecordListing
