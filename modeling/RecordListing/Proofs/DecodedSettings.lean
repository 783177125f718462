import RecordListing.Proofs.LayeredTrees

namespace RecordListing

/-!
# Each setting from its own place

A record reads each of its fields from the entry with its name and from no other one, and
a map each of its values from the entry with its key. So every setting comes from what
stands at one path of the tree, or has its default where nothing does.
-/

open Setting

namespace Decoder

/-- What becomes of a value that may be missing. -/
def withDefault {α : Type} (decode : Decoder α) (default : α) :
    Option Setting → Except DecodeError α
  | none => .ok default
  | some v => decode v

/-- A value of a map, which may be missing. -/
def present {α : Type} (decode : Decoder α) : Decoder (Option α) := fun v => (decode v).map some

/-- Decoding the field leaves a part of the record as it is. -/
def Field.Keeps {σ α : Type} (f : Field σ) (get : σ → α) : Prop :=
  ∀ s v s', f.decode s v = .ok s' → get s' = get s

variable {σ α β : Type}

@[simp] theorem name_field (name : String) (decode : Decoder β) (set : β → σ → σ) :
    (field name decode set).name = name := rfl

theorem field_decode_eq_ok {name : String} {decode : Decoder β} {set : β → σ → σ} {s s' : σ}
    {v : Setting} :
    (field name decode set).decode s v = .ok s' ↔ ∃ b, decode v = .ok b ∧ s' = set b s := by
  simp only [field]
  cases decode v <;> simp [Except.map, eq_comm]

@[simp] theorem keeps_field {set : β → σ → σ} {get : σ → α} (h : ∀ b s, get (set b s) = get s)
    (name : String) (decode : Decoder β) : (field name decode set).Keeps get := by
  intro s v s' hdecode
  obtain ⟨b, -, rfl⟩ := field_decode_eq_ok.mp hdecode
  exact h b s

/-- An entry goes to the field of its name. If there is none, it is passed over. -/
theorem decodeFields_cons_eq_ok {fields : List (Field σ)} {entry : String × Setting}
    {rest : List (String × Setting)} {start s : σ} :
    decodeFields fields (entry :: rest) start = .ok s ↔
      ∃ next, (fields.find? (fun f => f.name = entry.1) = none ∧ next = start ∨
          ∃ f, fields.find? (fun f => f.name = entry.1) = some f ∧
            f.decode start entry.2 = .ok next) ∧
        decodeFields fields rest next = .ok s := by
  rw [decodeFields]
  cases fields.find? fun f => f.name = entry.1 with
  | none => simp
  | some f => cases hstep : f.decode start entry.2 <;> simp [hstep]

/-- The part of a record that a field sets, and no other field touches, comes from the entry
with the name of the field. -/
theorem decodeFields_get (get : σ → α) {fields : List (Field σ)} {name : String}
    {decode : Decoder α} {set : α → σ → σ} {entries : List (String × Setting)} {start s : σ}
    (hdecode : decodeFields fields entries start = .ok s)
    (hkeys : (entries.map (·.1)).Nodup)
    (hfind : fields.find? (fun f => f.name = name) = some (field name decode set))
    (hset : ∀ a s, get (set a s) = a)
    (hothers : ∀ f ∈ fields, f.name ≠ name → f.Keeps get) :
    decode.withDefault (get start) (Keyed.get? name entries) = .ok (get s) := by
  induction entries generalizing start with
  | nil =>
      obtain rfl : start = s := Except.ok.inj hdecode
      rfl
  | cons entry rest ih =>
      rw [List.map_cons, List.nodup_cons] at hkeys
      obtain ⟨next, hstep, hrest⟩ := decodeFields_cons_eq_ok.mp hdecode
      have htail := ih hrest hkeys.2
      obtain ⟨key, v⟩ := entry
      by_cases hkey : key = name
      · subst hkey
        have hnomore : Keyed.get? key rest = none := Keyed.get?_eq_none_iff.mpr hkeys.1
        rcases hstep with ⟨hnone, -⟩ | ⟨f, hf, hvalue⟩
        · cases hfind.symm.trans hnone
        · cases hfind.symm.trans hf
          obtain ⟨a, ha, rfl⟩ := field_decode_eq_ok.mp hvalue
          rw [hnomore, withDefault, hset] at htail
          rw [Keyed.get?, if_pos rfl, withDefault, ha, htail]
      · have hkeep : get next = get start := by
          rcases hstep with ⟨-, rfl⟩ | ⟨f, hf, hvalue⟩
          · rfl
          · have hname : f.name = key := by simpa using List.find?_some hf
            exact hothers f (List.mem_of_find?_eq_some hf) (hname ▸ hkey) start v next hvalue
        rw [Keyed.get?, if_neg hkey, ← hkeep]
        exact htail

theorem decodeEntries_cons_eq_ok {decode : Decoder α} {entry : String × Setting}
    {rest : List (String × Setting)} {values : Keyed α} :
    decodeEntries decode (entry :: rest) = .ok values ↔
      ∃ a others, decode entry.2 = .ok a ∧ decodeEntries decode rest = .ok others ∧
        values = Keyed.put entry.1 a others := by
  rw [decodeEntries]
  cases decode entry.2 with
  | error e => simp
  | ok a => cases decodeEntries decode rest <;> simp [Except.map, eq_comm]

theorem decodeEntries_get {decode : Decoder α} {entries : List (String × Setting)}
    {values : Keyed α} (h : decodeEntries decode entries = .ok values) (key : String) :
    decode.present.withDefault none (Keyed.get? key entries) = .ok (Keyed.get? key values) := by
  induction entries generalizing values with
  | nil =>
      obtain rfl : [] = values := Except.ok.inj h
      rfl
  | cons entry rest ih =>
      obtain ⟨a, others, hvalue, hrest, rfl⟩ := decodeEntries_cons_eq_ok.mp h
      obtain ⟨name, v⟩ := entry
      by_cases hname : name = key
      · subst hname
        rw [Keyed.get?, if_pos rfl, Keyed.get?_put_self, withDefault, present, hvalue]
        rfl
      · rw [Keyed.get?, if_neg hname, Keyed.get?_put_of_ne hname]
        exact ih hrest

theorem record_get (get : σ → α) {type : String} {fields : List (Field σ)} {name : String}
    {decode : Decoder α} {set : α → σ → σ} {start s : σ} {path : List String} {tree : Setting}
    (h : (record type start fields).withDefault start (at? path tree) = .ok s)
    (htable : ∀ v ∈ at? path tree, IsRecord v)
    (hfind : fields.find? (fun f => f.name = name) = some (field name decode set))
    (hset : ∀ a s, get (set a s) = a)
    (hothers : ∀ f ∈ fields, f.name ≠ name → f.Keeps get) :
    decode.withDefault (get start) (at? (path ++ [name]) tree) = .ok (get s) := by
  rw [at?_append]
  cases hat : at? path tree with
  | none =>
      rw [hat] at h
      obtain rfl : start = s := Except.ok.inj h
      rfl
  | some v =>
      obtain ⟨origin, entries, rfl, hkeys⟩ := (htable v hat).exists_eq
      rw [hat] at h
      rw [Option.bind_some, at?_single]
      exact decodeFields_get get h hkeys hfind hset hothers

theorem map_get {decode : Decoder α} {values : Keyed α} {path : List String} {tree : Setting}
    (h : (map decode).withDefault [] (at? path tree) = .ok values) (key : String) :
    decode.present.withDefault none (at? (path ++ [key]) tree) = .ok (Keyed.get? key values) := by
  rw [at?_append]
  cases hat : at? path tree with
  | none =>
      rw [hat] at h
      obtain rfl : [] = values := Except.ok.inj h
      rfl
  | some v =>
      rw [hat] at h
      cases v with
      | scalar origin w => cases h
      | list origin items => cases h
      | table origin entries =>
          rw [Option.bind_some, at?_single]
          exact decodeEntries_get h key

theorem withDefault_of_present {decode : Decoder α} (start : α) {old : Option Setting}
    {value : Option α} (h : decode.present.withDefault none old = .ok value) :
    decode.withDefault start old = .ok (value.getD start) := by
  cases old with
  | none =>
      obtain rfl : none = value := Except.ok.inj h
      rfl
  | some v =>
      rw [withDefault, present] at h
      rw [withDefault]
      cases hvalue : decode v with
      | error e =>
          rw [hvalue] at h
          cases h
      | ok a =>
          rw [hvalue] at h
          obtain rfl : some a = value := Except.ok.inj h
          rfl

end Decoder

open Decoder

/-! ## The records of the settings -/

section

variable {path : List String} {tree : Setting}

theorem OutputSettings.of_decode {o : OutputSettings}
    (h : OutputSettings.decode.withDefault {} (at? path tree) = .ok o)
    (htable : ∀ v ∈ at? path tree, IsRecord v) :
    OutputForm.decode.withDefault .table (at? (path ++ ["default_mode"]) tree) =
      .ok o.defaultMode ∧
    TableStyle.decode.withDefault .plain (at? (path ++ ["table_style"]) tree) =
      .ok o.tableStyle ∧
    switch.withDefault true (at? (path ++ ["color"]) tree) = .ok o.color :=
  ⟨record_get OutputSettings.defaultMode h htable rfl (fun _ _ => rfl) (by simp),
    record_get OutputSettings.tableStyle h htable rfl (fun _ _ => rfl) (by simp),
    record_get OutputSettings.color h htable rfl (fun _ _ => rfl) (by simp)⟩

theorem LoggingSettings.of_decode {l : LoggingSettings}
    (h : LoggingSettings.decode.withDefault {} (at? path tree) = .ok l)
    (htable : ∀ v ∈ at? path tree, IsRecord v) :
    switch.withDefault true (at? (path ++ ["enabled"]) tree) = .ok l.enabled ∧
    text.withDefault "warn" (at? (path ++ ["level"]) tree) = .ok l.level ∧
    text.withDefault "text" (at? (path ++ ["format"]) tree) = .ok l.format ∧
    text.withDefault "stderr" (at? (path ++ ["output"]) tree) = .ok l.output ∧
    (optional text).withDefault none (at? (path ++ ["file"]) tree) = .ok l.file ∧
    switch.withDefault true (at? (path ++ ["color"]) tree) = .ok l.color ∧
    (map text).withDefault [] (at? (path ++ ["modules"]) tree) = .ok l.modules :=
  ⟨record_get LoggingSettings.enabled h htable rfl (fun _ _ => rfl) (by simp),
    record_get LoggingSettings.level h htable rfl (fun _ _ => rfl) (by simp),
    record_get LoggingSettings.format h htable rfl (fun _ _ => rfl) (by simp),
    record_get LoggingSettings.output h htable rfl (fun _ _ => rfl) (by simp),
    record_get LoggingSettings.file h htable rfl (fun _ _ => rfl) (by simp),
    record_get LoggingSettings.color h htable rfl (fun _ _ => rfl) (by simp),
    record_get LoggingSettings.modules h htable rfl (fun _ _ => rfl) (by simp)⟩

theorem Override.of_decode {o : Override}
    (h : Override.decode.withDefault {} (at? path tree) = .ok o)
    (htable : ∀ v ∈ at? path tree, IsRecord v) :
    (optional (list ColumnName.decode)).withDefault none
      (at? (path ++ ["default_columns"]) tree) = .ok o.defaultColumns ∧
    (optional text).withDefault none (at? (path ++ ["default_sort"]) tree) = .ok o.defaultSort :=
  ⟨record_get Override.defaultColumns h htable rfl (fun _ _ => rfl) (by simp),
    record_get Override.defaultSort h htable rfl (fun _ _ => rfl) (by simp)⟩

theorem Settings.of_decode {s : Settings}
    (h : Settings.decode.withDefault {} (at? path tree) = .ok s)
    (htable : ∀ v ∈ at? path tree, IsRecord v) :
    OutputSettings.decode.withDefault {} (at? (path ++ ["output"]) tree) = .ok s.output ∧
    LoggingSettings.decode.withDefault {} (at? (path ++ ["logging"]) tree) = .ok s.logging ∧
    (map Override.decode).withDefault [] (at? (path ++ ["entities"]) tree) = .ok s.entities :=
  ⟨record_get Settings.output h htable rfl (fun _ _ => rfl) (by simp),
    record_get Settings.logging h htable rfl (fun _ _ => rfl) (by simp),
    record_get Settings.entities h htable rfl (fun _ _ => rfl) (by simp)⟩

end

/-! ## The settings by their places -/

namespace Settings

/-- A setting by itself, with the type of its value. -/
inductive Item : Type → Type
  | defaultMode : Item OutputForm
  | tableStyle : Item TableStyle
  | outputColor : Item Bool
  | enabled : Item Bool
  | level : Item String
  | format : Item String
  | output : Item String
  | file : Item (Option String)
  | loggingColor : Item Bool
  | module (name : String) : Item (Option String)
  | columns (entity : String) : Item (Option (List ColumnName))
  | order (entity : String) : Item (Option String)

/-- The paths to the tables that the settings are in. -/
inductive IsTablePlace : List String → Prop
  | root : IsTablePlace []
  | output : IsTablePlace ["output"]
  | logging : IsTablePlace ["logging"]
  | modules : IsTablePlace ["logging", "modules"]
  | entities : IsTablePlace ["entities"]
  | entity (name : String) : IsTablePlace ["entities", name]

namespace Item

variable {α : Type}

def path : Item α → List String
  | defaultMode => ["output", "default_mode"]
  | tableStyle => ["output", "table_style"]
  | outputColor => ["output", "color"]
  | enabled => ["logging", "enabled"]
  | level => ["logging", "level"]
  | format => ["logging", "format"]
  | output => ["logging", "output"]
  | file => ["logging", "file"]
  | loggingColor => ["logging", "color"]
  | module name => ["logging", "modules", name]
  | columns entity => ["entities", entity, "default_columns"]
  | order entity => ["entities", entity, "default_sort"]

/-- The conversion of a value of the setting. -/
def decode : Item α → Decoder α
  | defaultMode => OutputForm.decode
  | tableStyle => TableStyle.decode
  | outputColor => switch
  | enabled => switch
  | level => text
  | format => text
  | output => text
  | file => optional text
  | loggingColor => switch
  | module _ => text.present
  | columns _ => optional (list ColumnName.decode)
  | order _ => optional text

def get : Item α → Settings → α
  | defaultMode, s => s.output.defaultMode
  | tableStyle, s => s.output.tableStyle
  | outputColor, s => s.output.color
  | enabled, s => s.logging.enabled
  | level, s => s.logging.level
  | format, s => s.logging.format
  | output, s => s.logging.output
  | file, s => s.logging.file
  | loggingColor, s => s.logging.color
  | module name, s => Keyed.get? name s.logging.modules
  | columns entity, s => ((Keyed.get? entity s.entities).getD {}).defaultColumns
  | order entity, s => ((Keyed.get? entity s.entities).getD {}).defaultSort

/-- A path of a setting leads through tables that settings are in. -/
theorem isTablePlace_of_prefix (x : Item α) {path : List String} (h : path <+: x.path)
    (hne : path ≠ x.path) : IsTablePlace path := by
  rw [← List.mem_inits] at h
  cases x with
  | defaultMode | tableStyle | outputColor =>
      obtain rfl | rfl | rfl : path = [] ∨ path = ["output"] ∨ path = _ := by
        simpa [Item.path] using h
      · exact .root
      · exact .output
      · exact absurd rfl hne
  | enabled | level | format | output | file | loggingColor =>
      obtain rfl | rfl | rfl : path = [] ∨ path = ["logging"] ∨ path = _ := by
        simpa [Item.path] using h
      · exact .root
      · exact .logging
      · exact absurd rfl hne
  | module name =>
      obtain rfl | rfl | rfl | rfl :
          path = [] ∨ path = ["logging"] ∨ path = ["logging", "modules"] ∨ path = _ := by
        simpa [Item.path] using h
      · exact .root
      · exact .logging
      · exact .modules
      · exact absurd rfl hne
  | columns entity | order entity =>
      obtain rfl | rfl | rfl | rfl :
          path = [] ∨ path = ["entities"] ∨ path = ["entities", entity] ∨ path = _ := by
        simpa [Item.path] using h
      · exact .root
      · exact .entities
      · exact .entity entity
      · exact absurd rfl hne

end Item

theorem IsTablePlace.of_prefix {path path' : List String} (h : IsTablePlace path)
    (hinitial : path' <+: path) : IsTablePlace path' := by
  have hitem {α : Type} (x : Item α) (hpath : path <+: x.path)
      (hlength : path.length < x.path.length) : IsTablePlace path' := by
    refine x.isTablePlace_of_prefix (hinitial.trans hpath) ?_
    rintro rfl
    exact absurd hlength (Nat.not_lt_of_le hinitial.length_le)
  cases h with
  | root => exact hitem .level List.nil_prefix (by decide)
  | output => exact hitem .outputColor (List.prefix_append _ _) (by decide)
  | logging => exact hitem .level (List.prefix_append _ _) (by decide)
  | modules => exact hitem (.module "") (List.prefix_append _ _) (by decide)
  | entities => exact hitem (.columns "") (List.prefix_append _ _) (by decide)
  | entity name => exact hitem (.columns name) (List.prefix_append _ _) (by simp [Item.path])

namespace Item

variable {α : Type}

/-- Every setting is the conversion of what stands at its path, or its default. -/
theorem of_decode {tree : Setting} {s : Settings} (h : Settings.decode tree = .ok s)
    (htables : ∀ path, IsTablePlace path → ∀ v ∈ at? path tree, IsRecord v) (x : Item α) :
    x.decode.withDefault (x.get {}) (at? x.path tree) = .ok (x.get s) := by
  have htree : Settings.decode.withDefault {} (at? [] tree) = .ok s := h
  obtain ⟨houtput, hlogging, hentities⟩ := Settings.of_decode htree (htables [] .root)
  obtain ⟨hmode, hstyle, hcolor⟩ := OutputSettings.of_decode houtput (htables _ .output)
  obtain ⟨henabled, hlevel, hformat, hlog, hfile, hcolor', hmodules⟩ :=
    LoggingSettings.of_decode hlogging (htables _ .logging)
  have hentity (name : String) :=
    Override.of_decode (withDefault_of_present {} (map_get hentities name))
      (htables _ (.entity name))
  cases x with
  | defaultMode => exact hmode
  | tableStyle => exact hstyle
  | outputColor => exact hcolor
  | enabled => exact henabled
  | level => exact hlevel
  | format => exact hformat
  | output => exact hlog
  | file => exact hfile
  | loggingColor => exact hcolor'
  | module name => exact map_get hmodules name
  | columns entity => exact (hentity entity).1
  | order entity => exact (hentity entity).2

theorem not_isTablePlace (x : Item α) : ¬ IsTablePlace x.path := by
  intro h
  generalize hpath : x.path = path at h
  cases h <;> cases x <;> simp [Item.path] at hpath

/-! ## Tables as values -/

/-- Only a table that stands for a variant converts, by its only key. -/
theorem decode_entry (x : Item α) {v : Setting} {a : α} (h : x.decode v = .ok a) {key : String}
    (hkey : (Keyed.get? key v.entries).isSome) (w : Setting) :
    x.decode (.table none [(key, w)]) = .ok a := by
  cases v with
  | scalar origin w => cases hkey
  | list origin items => cases hkey
  | table origin entries =>
      cases x with
      | defaultMode | tableStyle =>
          cases entries with
          | nil => cases hkey
          | cons entry rest =>
              obtain ⟨name, w⟩ := entry
              cases rest with
              | nil =>
                  obtain rfl : name = key := by
                    by_contra hne
                    simp [Setting.entries, Keyed.get?, hne] at hkey
                  exact h
              | cons next rest => cases h
      | outputColor | enabled | loggingColor => cases h
      | level | format | output | file | module name | columns entity | order entity => cases h

theorem decode_empty (x : Item α) (a : α) : x.decode empty ≠ .ok a := by
  cases x <;> exact nofun

end Item

end Settings

end RecordListing
