import RecordListing.Proofs.ScalarReading
import RecordListing.Proofs.SettingLayers

namespace RecordListing

/-!
# Texts from the environment

A file sets a text as it stands. A variable sets what its value becomes after it has been
read as a switch, an integer or a float, and sets nothing where the name of a module or
of an entity cannot be a part of a key.
-/

/-- The settings that are texts. Parts of the program and entities have names of their own. -/
inductive TextSetting where
  | level
  | format
  | output
  | file
  | module (name : String)
  | order (name : String)
  deriving DecidableEq

namespace TextSetting

def path : TextSetting → List String
  | .level => ["logging", "level"]
  | .format => ["logging", "format"]
  | .output => ["logging", "output"]
  | .file => ["logging", "file"]
  | .module name => ["logging", "modules", name]
  | .order name => ["entities", name, "default_sort"]

/-- The defaults with one text set. -/
def assign (value : String) : TextSetting → Settings
  | .level => { logging := { level := value } }
  | .format => { logging := { format := value } }
  | .output => { logging := { output := value } }
  | .file => { logging := { file := some value } }
  | .module name => { logging := { modules := [(Text.lower name, value)] } }
  | .order name => { entities := [(Text.lower name, { defaultSort := some value })] }

theorem assign_inj {x : TextSetting} {a b : String} : x.assign a = x.assign b ↔ a = b := by
  cases x <;> simp [assign]

/-- The key of a setting, which is in lower case. -/
def key (x : TextSetting) : String := Text.join "." (x.path.map Text.lower)

/-- The names in the key can be parts of it. -/
def Spelled (x : TextSetting) : Prop := ∀ name ∈ x.path.map Text.lower, Setting.Key.IsName name

/-! ## What a text decodes to -/

theorem ne_table_of_text {v : Setting} {t : String} (h : Decoder.text v = .ok t)
    (origin : Option String) (entries : List (String × Setting)) : v ≠ .table origin entries := by
  rintro rfl
  cases h

theorem optional_text {v : Setting} {t : String} (h : Decoder.text v = .ok t) :
    Decoder.optional Decoder.text v = .ok (some t) := by
  unfold Decoder.optional
  split
  · cases h
  · rw [h]
    rfl

theorem text_scalar (origin : Option String) (s : String) :
    Decoder.text (.scalar origin (.text s)) = .ok s := rfl

theorem withEntry_file (v : Setting) :
    Setting.defaultLogging.withEntry "file" v = .table none [
      ("color", .scalar none (.switch true)), ("enabled", .scalar none (.switch true)),
      ("file", v), ("format", .scalar none (.text "text")), ("level", .scalar none (.text "warn")),
      ("output", .scalar none (.text "stderr"))] :=
  rfl

theorem withEntry_modules (v : Setting) :
    Setting.defaultLogging.withEntry "modules" v = .table none [
      ("color", .scalar none (.switch true)), ("enabled", .scalar none (.switch true)),
      ("format", .scalar none (.text "text")), ("level", .scalar none (.text "warn")),
      ("modules", v), ("output", .scalar none (.text "stderr"))] :=
  rfl

theorem decode_loggingField {v : Setting} {t : String} (h : Decoder.text v = .ok t) :
    LoggingSettings.decode (Setting.defaultLogging.withEntry "level" v) = .ok { level := t } ∧
    LoggingSettings.decode (Setting.defaultLogging.withEntry "format" v) = .ok { format := t } ∧
    LoggingSettings.decode (Setting.defaultLogging.withEntry "output" v) = .ok { output := t } ∧
    LoggingSettings.decode (Setting.defaultLogging.withEntry "file" v) =
      .ok { file := some t } := by
  rw [withEntry_file]
  refine ⟨?_, ?_, ?_, ?_⟩ <;>
    simp [Setting.defaultLogging, Setting.withEntry, Setting.entries, Setting.tableOrigin,
      Keyed.put, Keyed.get?, Keyed.replace, LoggingSettings.decode, Decoder.record,
      Decoder.decodeFields, Decoder.field, List.find?, Decoder.switch, text_scalar, h,
      optional_text h, Except.map]

theorem decode_loggingModules (name : String) (v : Setting) :
    LoggingSettings.decode
        (Setting.defaultLogging.withEntry "modules" (.table none [(name, v)])) =
      ((Decoder.text v).mapError fun e => (e.under name).under "modules").map
        fun t => { modules := [(name, t)] } := by
  rw [withEntry_modules]
  cases h : Decoder.text v <;>
    simp [LoggingSettings.decode, Decoder.record, Decoder.decodeFields, Decoder.field, List.find?,
      Decoder.switch, text_scalar, Decoder.map, Decoder.decodeEntries, Keyed.put,
      Keyed.insertSorted, h, Except.map, Except.mapError]

theorem decode_defaultSort {v : Setting} {t : String} (h : Decoder.text v = .ok t) :
    Override.decode (.table none [("default_sort", v)]) = .ok { defaultSort := some t } := by
  simp [Override.decode, Decoder.record, Decoder.decodeFields, Decoder.field, List.find?,
    optional_text h, Except.map]

theorem decode_assign (x : TextSetting) {v : Setting} {t : String} (h : Decoder.text v = .ok t) :
    Settings.decode (Setting.assign v x.path Setting.defaultTree) = .ok (x.assign t) := by
  have hput := Setting.put_of_not_table (ne_table_of_text h)
  have hlower := Setting.lower_of_mem_plainNames
  obtain ⟨hlevel, hformat, houtput, hfile⟩ := decode_loggingField h
  have hlogging (name : String) (hname : name ∈ Setting.plainNames) :
      Settings.decode (Setting.assign v ["logging", name] Setting.defaultTree) =
        ((LoggingSettings.decode (Setting.defaultLogging.withEntry name v)).mapError
          (·.under "logging")).map fun l => { logging := l } := by
    rw [Setting.assign_logging, Setting.decode_logging, Setting.assign_single, hput,
      hlower name hname]
  cases x with
  | level => rw [path, hlogging "level" (by decide), hlevel]; rfl
  | format => rw [path, hlogging "format" (by decide), hformat]; rfl
  | output => rw [path, hlogging "output" (by decide), houtput]; rfl
  | file => rw [path, hlogging "file" (by decide), hfile]; rfl
  | module name =>
      have hmodules : Setting.assign v ["modules", name] Setting.defaultLogging =
          Setting.defaultLogging.withEntry "modules" (.table none [(Text.lower name, v)]) := by
        rw [Setting.assign_cons, Setting.assign_single, hput, hlower "modules" (by decide)]
        rfl
      rw [path, Setting.assign_logging, Setting.decode_logging, hmodules, decode_loggingModules, h]
      rfl
  | order name =>
      have hentity : Setting.assign v [name, "default_sort"] Setting.unset =
          .table none [(Text.lower name, .table none [("default_sort", v)])] := by
        rw [Setting.assign_cons, Setting.assign_single, hput, hlower "default_sort" (by decide)]
        rfl
      rw [path, Setting.assign_entities, hentity, Setting.decode_entities, decode_defaultSort h]
      rfl

end TextSetting

/-! ## Keys without a meaning -/

/-- An entry that no field is named for is passed over wherever it stands. -/
theorem Decoder.decodeFields_insertSorted {σ : Type} {fields : List (Decoder.Field σ)}
    {key : String} (h : fields.find? (·.name = key) = none) (v : Setting)
    (entries : List (String × Setting)) (start : σ) :
    Decoder.decodeFields fields (Keyed.insertSorted key v entries) start =
      Decoder.decodeFields fields entries start := by
  induction entries generalizing start with
  | nil => simp [Keyed.insertSorted, Decoder.decodeFields, h]
  | cons entry entries ih =>
      obtain ⟨k, w⟩ := entry
      rw [Keyed.insertSorted]
      split
      · rw [Decoder.decodeFields, h]
      · simp only [Decoder.decodeFields]
        split
        · exact ih start
        split
        · rfl
        · exact ih _

namespace Settings

theorem decode_unknown {key : String} (h : key ∉ ["output", "logging", "entities"]) (v : Setting) :
    decode (Setting.defaultTree.withEntry key v) = .ok {} := by
  have hnew : Keyed.get? key Setting.defaultTree.entries = none := by
    simp only [List.mem_cons, List.not_mem_nil, or_false, not_or] at h
    simp [Setting.defaultTree, Setting.entries, Keyed.get?, Ne.symm h.1, Ne.symm h.2.1]
  have hunknown (fields : List (Decoder.Field Settings))
      (hfields : fields.map (·.name) = ["output", "logging", "entities"]) :
      fields.find? (·.name = key) = none := by
    rw [← hfields] at h
    rw [List.find?_eq_none]
    exact fun f hf hname => h (of_decide_eq_true hname ▸ List.mem_map_of_mem hf)
  rw [Setting.withEntry, Keyed.put, hnew, decode, Decoder.record]
  dsimp only
  rw [Decoder.decodeFields_insertSorted (hunknown _ rfl)]
  rfl

theorem decode_putAt_of_none {key : String} (hkey : Setting.Key.ofText? key = none)
    (hdot : '.' ∈ key.toList) {v : Setting} (hv : ∀ origin entries, v ≠ .table origin entries) :
    decode (Setting.putAt key v Setting.defaultTree) = .ok {} := by
  have hlower : '.' ∈ (Text.lower key).toList :=
    Text.mem_lower (by decide) (by decide) (by decide) hdot
  have hput : Setting.putAt key v Setting.defaultTree =
      Setting.defaultTree.withEntry (Text.lower key) v := by
    rw [Setting.putAt, hkey]
    exact Setting.put_of_not_table hv key _
  have hfields : ∀ name ∈ ["output", "logging", "entities"], '.' ∉ name.toList := by decide
  rw [hput]
  exact decode_unknown (fun hname => hfields _ hname hlower) v

/-- A place below another name holds other settings. -/
theorem decode_putAlong_modules {n name : String} (hn : Text.lower n ≠ Text.lower name)
    (v : Setting) (steps : List Setting.Step) (value : String) :
    decode (Setting.putAlong v (.child "logging" :: .child "modules" :: .child n :: steps)
      Setting.defaultTree) ≠ .ok ((TextSetting.module name).assign value) := by
  obtain ⟨w, hw⟩ := Setting.exists_putAlong_unset v n steps
  have hmodules : Setting.putAlong v (.child "modules" :: .child n :: steps)
      Setting.defaultLogging =
        Setting.defaultLogging.withEntry "modules" (.table none [(Text.lower n, w)]) := by
    rw [Setting.putAlong_cons, Setting.lower_of_mem_plainNames "modules" (by decide), ← hw]
    rfl
  rw [Setting.putAlong_logging, hmodules, Setting.decode_logging,
    TextSetting.decode_loggingModules]
  cases Decoder.text w with
  | error e => simp [Except.map, Except.mapError]
  | ok t => simp [Except.map, Except.mapError, TextSetting.assign, hn]

theorem decode_putAlong_entities {n name : String} (hn : Text.lower n ≠ Text.lower name)
    (v : Setting) (steps : List Setting.Step) (value : String) :
    decode (Setting.putAlong v (.child "entities" :: .child n :: steps) Setting.defaultTree) ≠
      .ok ((TextSetting.order name).assign value) := by
  obtain ⟨w, hw⟩ := Setting.exists_putAlong_unset v n steps
  rw [Setting.putAlong_entities, hw, Setting.decode_entities]
  cases Override.decode w with
  | error e => simp [Except.map, Except.mapError]
  | ok o => simp [Except.map, Except.mapError, TextSetting.assign, hn]

end Settings

namespace TextSetting

theorem lower_path (x : TextSetting) :
    x.path.map Text.lower =
      match x with
      | .module name => ["logging", "modules", Text.lower name]
      | .order name => ["entities", Text.lower name, "default_sort"]
      | x => x.path := by
  have hplain (name : String) (h : name ∈ Setting.plainNames) : Text.lower name = name :=
    Setting.lower_of_mem_plainNames name h
  cases x <;>
    simp only [path, List.map_cons, List.map_nil, hplain "logging" (by decide),
      hplain "modules" (by decide), hplain "entities" (by decide),
      hplain "default_sort" (by decide), hplain "level" (by decide), hplain "format" (by decide),
      hplain "output" (by decide), hplain "file" (by decide)]

theorem key_not_mem_listKeys (x : TextSetting) : x.key ∉ Layer.listKeys := by
  have hends : ∀ key ∈ Layer.listKeys,
      key.toList.head? = some 'e' ∧ key.toList.getLast? = some 's' := by
    decide
  intro hlisted
  obtain ⟨hhead, hlast⟩ := hends _ hlisted
  rw [key, lower_path] at hhead hlast
  cases x with
  | order name =>
      have hend : ['.', 'd', 'e', 'f', 'a', 'u', 'l', 't', '_', 's', 'o', 'r', 't'].getLast? =
          some 't' := rfl
      rw [Setting.Key.toList_join] at hlast
      simp [Setting.Key.dottedNames] at hlast
      rw [← List.cons_append, List.getLast?_append, hend] at hlast
      cases hlast
  | _ => simp [path, Setting.Key.toList_join] at hhead

/-- Only names of modules and of entities can be unfit for a key. -/
theorem spelled_iff (x : TextSetting) :
    x.Spelled ↔
      match x with
      | .module name => Setting.Key.IsName (Text.lower name)
      | .order name => Setting.Key.IsName (Text.lower name)
      | _ => True := by
  have hplain := Setting.isName_of_mem_plainNames
  rw [Spelled, lower_path]
  cases x with
  | module name => simp [hplain "logging" (by decide), hplain "modules" (by decide)]
  | order name => simp [hplain "entities" (by decide), hplain "default_sort" (by decide)]
  | _ =>
      simp only [iff_true]
      decide

theorem decode_of_not_spelled {x : TextSetting} (h : ¬ x.Spelled) {v : Setting}
    (hv : ∀ origin entries, v ≠ .table origin entries) (value : String) :
    Settings.decode (Setting.putAt x.key v Setting.defaultTree) ≠ .ok (x.assign value) := by
  have hplain := Setting.isName_of_mem_plainNames
  have hother {n name : String}
      (hlength : (Text.lower n).toList.length < (Text.lower name).toList.length) :
      Text.lower n ≠ Text.lower name := by
    intro hsame
    rw [hsame] at hlength
    exact Nat.lt_irrefl _ hlength
  rw [spelled_iff] at h
  cases x with
  | module name =>
      have hkey : (module name).key.toList = "logging".toList ++
          (Setting.Key.dottedNames ["modules"] ++ '.' :: ((Text.lower name).toList ++ [])) := by
        rw [key, lower_path, Setting.Key.toList_join]
        simp [Setting.Key.dottedNames]
      rcases Setting.Key.ofText?_of_not_isName (by decide) h (by simp) hkey with
        hnone | ⟨n, steps, hsome, hlength⟩
      · rw [Settings.decode_putAt_of_none hnone (by rw [hkey]; simp) hv]
        simp [assign]
      · rw [Setting.putAt, hsome]
        exact Settings.decode_putAlong_modules (hother hlength) v steps value
  | order name =>
      have hkey : (order name).key.toList = "entities".toList ++
          (Setting.Key.dottedNames [] ++
            '.' :: ((Text.lower name).toList ++ ".default_sort".toList)) := by
        rw [key, lower_path, Setting.Key.toList_join]
        simp [Setting.Key.dottedNames]
      rcases Setting.Key.ofText?_of_not_isName (by decide) h (by simp; decide) hkey with
        hnone | ⟨n, steps, hsome, hlength⟩
      · rw [Settings.decode_putAt_of_none hnone (by rw [hkey]; simp) hv]
        simp [assign]
      · rw [Setting.putAt, hsome]
        exact Settings.decode_putAlong_entities (hother hlength) v steps value
  | _ => exact absurd trivial h

theorem putAt_key {x : TextSetting} (h : x.Spelled) (v root : Setting) :
    Setting.putAt x.key v root = Setting.assign v x.path root := by
  have hlower : (x.path.map Text.lower).map Text.lower = x.path.map Text.lower := by
    rw [List.map_map]
    exact List.map_congr_left fun name _ => Text.lower_lower name
  obtain ⟨first, names, hnames⟩ : ∃ first names, x.path.map Text.lower = first :: names := by
    cases x <;> exact ⟨_, _, rfl⟩
  rw [Spelled, hnames] at h
  rw [key, hnames, Setting.putAt_join h, ← hnames]
  exact Setting.assign_of_lower hlower v root

/-! ## Both ways to set a text -/

section Both

variable {x : TextSetting} {name value : String} {s s' : Surroundings} {path : String}

theorem load_of_readsOnly (h : s.ReadsOnly path (Toml.alone x.path (.text value))) :
    Settings.load s (some path) = .ok (x.assign value) := by
  obtain ⟨first, names, hpath, hfirst⟩ : ∃ first names, x.path = first :: names ∧
      Setting.Key.IsName first := by
    cases x <;> exact ⟨_, _, rfl, by decide⟩
  rw [hpath] at h
  rw [Settings.load_of_readsOnly h hfirst, ← hpath, decode_assign x (t := value) rfl]
  rfl

theorem load_of_setsOnly (hname : Layer.keyOfVariable? name = some x.key)
    (h : s.SetsOnly name value) (hspelled : x.Spelled) :
    Settings.load s none = .ok (x.assign (Layer.arrival value)) := by
  rw [Settings.load_of_setsOnly h hname, putAt_key hspelled,
    decode_assign x (Layer.text_ofVariable x.key_not_mem_listKeys value)]
  rfl

theorem load_of_not_spelled (hname : Layer.keyOfVariable? name = some x.key)
    (h : s.SetsOnly name value) (hspelled : ¬ x.Spelled) :
    Settings.load s none ≠ .ok (x.assign value) := by
  have harrival := Layer.text_ofVariable x.key_not_mem_listKeys value
  have hother := decode_of_not_spelled hspelled (ne_table_of_text harrival) value
  rw [Settings.load_of_setsOnly h hname]
  cases hdecode : Settings.decode
      (Setting.putAt x.key (Layer.ofVariable x.key value) Setting.defaultTree) with
  | error e => exact fun hsame => nomatch hsame
  | ok settings =>
      intro hsame
      rw [hdecode] at hother
      exact hother (congrArg Except.ok (Except.ok.inj hsame))

/-- A file sets a text as it stands. A variable sets what the value becomes on its way, which is
the same only for the values that are kept, and only where the names in the key can be parts of
one. -/
theorem load_text (hname : Layer.keyOfVariable? name = some x.key) (hset : s.SetsOnly name value)
    (hread : s'.ReadsOnly path (Toml.alone x.path (.text value))) :
    Settings.load s' (some path) = .ok (x.assign value) ∧
    (x.Spelled → Settings.load s none = .ok (x.assign (Layer.arrival value))) ∧
    (Settings.load s none = Settings.load s' (some path) ↔ x.Spelled ∧ Layer.Kept value) := by
  refine ⟨load_of_readsOnly hread, load_of_setsOnly hname hset, ?_⟩
  rw [load_of_readsOnly hread, ← Layer.arrival_eq_iff]
  -- A name that is no part of a key is never set, so equal settings have one that is.
  constructor
  · intro hsame
    by_cases hspelled : x.Spelled
    · rw [load_of_setsOnly hname hset hspelled] at hsame
      exact ⟨hspelled, assign_inj.mp (Except.ok.inj hsame)⟩
    · exact absurd hsame (load_of_not_spelled hname hset hspelled)
  · rintro ⟨hspelled, hkept⟩
    rw [load_of_setsOnly hname hset hspelled, hkept]

end Both

/-- The level of a part of the program, written with an exponent. -/
theorem load_text_module :
    Settings.load (.onlyFile "log.toml" "[logging.modules]\nsltable = \"1e3\"\n")
        (some "log.toml") = .ok ((module "sltable").assign "1e3") ∧
      Settings.load (.onlyVariable "SLTABLE__LOGGING__MODULES__SLTABLE" "1e3") none =
        .ok ((module "sltable").assign "1000") := by
  have hname : Layer.keyOfVariable? "SLTABLE__LOGGING__MODULES__SLTABLE" =
      some (module "sltable").key := by
    decide
  have hset := Surroundings.setsOnly_onlyVariable hname "1e3"
  have hread := Surroundings.readsOnly_onlyFile "log.toml"
    "[logging.modules]\nsltable = \"1e3\"\n"
    (Toml.alone (module "sltable").path (.text "1e3")) (by decide) (by cbv)
  obtain ⟨hloaded, harrived, -⟩ := load_text hname hset hread
  have harrival : Layer.arrival "1e3" = "1000" := by decide +kernel
  exact ⟨hloaded, harrival ▸ harrived ((spelled_iff _).mpr (by decide))⟩

/-- The name of a file for the log loses its zeros on the way from a variable. -/
theorem load_loses_zeros :
    ¬ ∀ (x : TextSetting) (name value : String) (s s' : Surroundings) (path : String),
      Layer.keyOfVariable? name = some x.key → s.SetsOnly name value →
      s'.ReadsOnly path (Toml.alone x.path (.text value)) →
      Settings.load s none = Settings.load s' (some path) := by
  intro hsame
  have hname : Layer.keyOfVariable? "SLTABLE__LOGGING__FILE" = some file.key := by
    decide
  have hset := Surroundings.setsOnly_onlyVariable hname "007"
  have hread := Surroundings.readsOnly_onlyFile "log.toml"
    "[logging]\nfile = \"007\"\n"
    (Toml.alone file.path (.text "007")) (by decide) (by cbv)
  have hloaded := hsame file _ _ _ _ _ hname hset hread
  rw [load_of_setsOnly hname hset ((spelled_iff file).mpr trivial),
    load_of_readsOnly hread] at hloaded
  have harrival : Layer.arrival "007" = "7" := by decide
  have hkept : Layer.arrival "007" = "007" := assign_inj.mp (Except.ok.inj hloaded)
  exact absurd (harrival.symm.trans hkept) (by decide)

end TextSetting

end RecordListing
