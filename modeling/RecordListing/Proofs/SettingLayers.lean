import RecordListing.Proofs.KeyNames

namespace RecordListing

/-!
# A single setting in the environment or in a file

Where one variable is all that is set, or one value all that a file holds, the value is
put along the names of its key into the defaults. Both ways lead to the same place, so
what differs is the value that is put there.
-/

namespace Setting

/-! ## Values along names -/

def assign (v : Setting) (names : List String) (root : Setting) : Setting :=
  putAlong v (names.map .child) root

theorem assign_single (v : Setting) (key : String) (root : Setting) :
    assign v [key] root = put key v root := rfl

theorem assign_cons (v : Setting) (key next : String) (names : List String) (root : Setting) :
    assign v (key :: next :: names) root =
      root.withEntry (Text.lower key)
        (assign v (next :: names) ((Keyed.get? (Text.lower key) root.entries).getD unset)) := rfl

theorem putAt_join {first : String} {names : List String}
    (h : ∀ name ∈ first :: names, Key.IsName name) (v root : Setting) :
    putAt (Text.join "." (first :: names)) v root = assign v (first :: names) root := by
  rw [putAt, Key.ofText?_join h]
  cases names with
  | nil => rfl
  | cons => rfl

/-- Nothing but the entries of the root matters for what is put below it. -/
theorem assign_empty (v : Setting) (first : String) (names : List String) :
    assign v (first :: names) empty = assign v (first :: names) unset := by
  cases names with
  | nil => cases v <;> rfl
  | cons => rfl

end Setting

/-- A value inside tables with a single entry each. -/
def Toml.nested : List String → Toml → Toml
  | [], v => v
  | name :: names, v => .table [(name, nested names v)]

/-- The entries of a document that holds one value. -/
def Toml.alone : List String → Toml → List (String × Toml)
  | [], _ => []
  | name :: names, v => [(name, nested names v)]

namespace Setting

/-- Tables with a single entry each put their value along the names. -/
theorem put_nested (origin : Option String) (v : Toml) (first : String) (names : List String)
    (root : Setting) :
    put first (Layer.ofToml origin (.nested names v)) root =
      assign (Layer.ofToml origin v) (first :: names) root := by
  induction names generalizing first root with
  | nil => rfl
  | cons name names ih =>
      have hentry : put first (Layer.ofToml origin (.nested (name :: names) v)) root =
          root.withEntry (Text.lower first) (put name (Layer.ofToml origin (.nested names v))
            ((Keyed.get? (Text.lower first) root.entries).getD empty)) := by
        simp [Toml.nested, Layer.ofToml, Layer.ofTomlEntries, put, merge]
      rw [hentry, ih, assign_cons]
      -- Where nothing stands yet, one way starts from an empty table and the other from no value.
      cases Keyed.get? (Text.lower first) root.entries with
      | none => rw [Option.getD_none, Option.getD_none, assign_empty]
      | some sub => rfl

/-- The case of letters in names does not matter. -/
theorem assign_of_lower {names names' : List String}
    (h : names.map Text.lower = names'.map Text.lower) (v root : Setting) :
    assign v names root = assign v names' root := by
  induction names generalizing names' root with
  | nil =>
      obtain rfl : names' = [] := by simpa using h.symm
      rfl
  | cons key names ih =>
      obtain ⟨key', names', rfl⟩ := List.exists_cons_of_ne_nil
        (show names' ≠ [] by rintro rfl; simp at h)
      obtain ⟨hkey, hnames⟩ := List.cons.inj h
      cases names with
      | nil =>
          obtain rfl : names' = [] := by simpa using hnames.symm
          cases v <;> simp only [assign_single, put, hkey]
      | cons next names =>
          obtain ⟨next', names', rfl⟩ := List.exists_cons_of_ne_nil
            (show names' ≠ [] by rintro rfl; simp at hnames)
          rw [assign_cons, assign_cons, hkey, ih hnames]

/-! ## The defaults -/

def defaultLogging : Setting := .table none [
  ("color", .scalar none (.switch true)),
  ("enabled", .scalar none (.switch true)),
  ("format", .scalar none (.text "text")),
  ("level", .scalar none (.text "warn")),
  ("output", .scalar none (.text "stderr"))]

def defaultOutput : Setting := .table none [
  ("color", .scalar none (.switch true)),
  ("default_mode", .scalar none (.text "table")),
  ("table_style", .scalar none (.text "plain"))]

def defaultTree : Setting := .table none [("logging", defaultLogging), ("output", defaultOutput)]

/-- The names in the keys of the settings. -/
def plainNames : List String :=
  ["output", "default_mode", "table_style", "color", "logging", "enabled", "level", "format",
    "file", "modules", "entities", "default_columns", "default_sort"] ++ Kind.all.map Kind.name

theorem isName_of_mem_plainNames : ∀ name ∈ plainNames, Key.IsName name := by decide

theorem lower_of_mem_plainNames : ∀ name ∈ plainNames, Text.lower name = name := by
  decide

theorem putAt_two {names : String × String} (hfirst : names.1 ∈ plainNames)
    (hsecond : names.2 ∈ plainNames) (v root : Setting) :
    putAt (names.1 ++ "." ++ names.2) v root =
      root.withEntry names.1
        (put names.2 v ((Keyed.get? names.1 root.entries).getD unset)) := by
  have hnames : ∀ name ∈ [names.1, names.2], Key.IsName name := by
    simp only [List.forall_mem_cons]
    exact ⟨isName_of_mem_plainNames _ hfirst, isName_of_mem_plainNames _ hsecond,
      fun _ h => nomatch h⟩
  have hkey : names.1 ++ "." ++ names.2 = Text.join "." [names.1, names.2] := rfl
  rw [hkey, putAt_join hnames, assign_cons, assign_single, lower_of_mem_plainNames _ hfirst]

theorem overlay_defaults : overlay empty Layer.defaults = defaultTree := by
  have hplain : ∀ names ∈ [("output", "default_mode"), ("output", "table_style"),
      ("output", "color"), ("logging", "enabled"), ("logging", "level"), ("logging", "format"),
      ("logging", "output"), ("logging", "color")],
      names.1 ∈ plainNames ∧ names.2 ∈ plainNames ∧ Text.lower names.2 = names.2 := by
    decide
  have hput := fun names hnames => putAt_two (hplain names hnames).1 (hplain names hnames).2.1
  simp only [List.forall_mem_cons, String.reduceAppend] at hplain hput
  simp only [overlay, Layer.defaults, List.foldl_cons, List.foldl_nil, hput, hplain, put, withEntry,
    entries, tableOrigin, empty, unset, Keyed.put, Keyed.get?, Keyed.insertSorted, Keyed.replace,
    Option.getD_none, Option.getD_some, String.reduceEq, String.reduceLT, ↓reduceIte, defaultTree,
    defaultLogging, defaultOutput]

/-! ## One value in the defaults -/

theorem put_of_not_table {v : Setting} (hv : ∀ origin entries, v ≠ .table origin entries)
    (key : String) (root : Setting) : put key v root = root.withEntry (Text.lower key) v := by
  cases v with
  | scalar origin w => rfl
  | list origin items => rfl
  | table origin entries => exact absurd rfl (hv origin entries)

theorem withEntry_logging (v : Setting) :
    defaultTree.withEntry "logging" v = .table none [("logging", v), ("output", defaultOutput)] :=
  rfl

theorem withEntry_entities (v : Setting) :
    defaultTree.withEntry "entities" v =
      .table none [("entities", v), ("logging", defaultLogging), ("output", defaultOutput)] :=
  rfl

theorem putAlong_cons (v : Setting) (key : String) (step : Step) (steps : List Step)
    (root : Setting) :
    putAlong v (.child key :: step :: steps) root =
      root.withEntry (Text.lower key)
        (putAlong v (step :: steps) ((Keyed.get? (Text.lower key) root.entries).getD unset)) := rfl

theorem putAlong_logging (v : Setting) (step : Step) (steps : List Step) :
    putAlong v (.child "logging" :: step :: steps) defaultTree =
      .table none [("logging", putAlong v (step :: steps) defaultLogging),
        ("output", defaultOutput)] := by
  rw [putAlong_cons, lower_of_mem_plainNames "logging" (by decide), withEntry_logging]
  rfl

theorem putAlong_entities (v : Setting) (step : Step) (steps : List Step) :
    putAlong v (.child "entities" :: step :: steps) defaultTree =
      .table none [("entities", putAlong v (step :: steps) unset), ("logging", defaultLogging),
        ("output", defaultOutput)] := by
  rw [putAlong_cons, lower_of_mem_plainNames "entities" (by decide), withEntry_entities]
  rfl

theorem assign_logging (v : Setting) (next : String) (names : List String) :
    assign v ("logging" :: next :: names) defaultTree =
      .table none [("logging", assign v (next :: names) defaultLogging),
        ("output", defaultOutput)] :=
  putAlong_logging v (.child next) (names.map .child)

theorem assign_entities (v : Setting) (next : String) (names : List String) :
    assign v ("entities" :: next :: names) defaultTree =
      .table none [("entities", assign v (next :: names) unset), ("logging", defaultLogging),
        ("output", defaultOutput)] :=
  putAlong_entities v (.child next) (names.map .child)

theorem exists_putAlong_unset (v : Setting) (first : String) (steps : List Step) :
    ∃ w, putAlong v (.child first :: steps) unset = .table none [(Text.lower first, w)] := by
  cases steps with
  | nil => cases v <;> exact ⟨_, rfl⟩
  | cons => exact ⟨_, rfl⟩

theorem decode_defaultOutput : OutputSettings.decode defaultOutput = .ok {} := by
  rfl

theorem decode_defaultLogging : LoggingSettings.decode defaultLogging = .ok {} := by
  rfl

theorem decode_logging (t : Setting) :
    Settings.decode (.table none [("logging", t), ("output", defaultOutput)]) =
      ((LoggingSettings.decode t).mapError (·.under "logging")).map fun l => { logging := l } := by
  cases hlogging : LoggingSettings.decode t <;>
    simp [Settings.decode, Decoder.record, Decoder.decodeFields, Decoder.field, List.find?,
      hlogging, decode_defaultOutput, Except.map, Except.mapError]

theorem decode_entities (name : String) (t : Setting) :
    Settings.decode (.table none [("entities", .table none [(name, t)]),
        ("logging", defaultLogging), ("output", defaultOutput)]) =
      ((Override.decode t).mapError fun e => (e.under name).under "entities").map
        fun o => { entities := [(name, o)] } := by
  cases hoverride : Override.decode t <;>
    simp [Settings.decode, Decoder.record, Decoder.decodeFields, Decoder.field, Decoder.map,
      Decoder.decodeEntries, List.find?, Keyed.put, Keyed.insertSorted, hoverride,
      decode_defaultOutput, decode_defaultLogging, Except.map, Except.mapError]

end Setting

/-! ## Loading one value -/

namespace Surroundings

/-- Without a settings file, one variable sets a value. -/
structure SetsOnly (s : Surroundings) (name value : String) : Prop where
  setting : (s.environment.filter fun entry => (Layer.keyOfVariable? entry.1).isSome) =
    [(name, value)]
  noFile : ∀ path, Settings.Paths.globalFile? s = some path → (s.standing path).exists = false

/-- A file in TOML has this content, and no variable sets a value. -/
structure ReadsOnly (s : Surroundings) (path : String) (content : List (String × Toml)) :
    Prop where
  extension : Path.extension path = "toml"
  text : ∃ text, s.standing path = .file text ∧ Toml.ofText? text = some (.table content)
  noVariables : ∀ entry ∈ s.environment, Layer.keyOfVariable? entry.1 = none

def onlyVariable (name value : String) : Surroundings where
  directory := "/"
  environment := [(name, value)]
  standing _ := .missing
  resolved := id
  input := .ok ""

def onlyFile (path text : String) : Surroundings where
  directory := "/"
  environment := []
  standing p := if p = path then .file text else .missing
  resolved := id
  input := .ok ""

theorem setsOnly_onlyVariable {name key : String} (h : Layer.keyOfVariable? name = some key)
    (value : String) : (onlyVariable name value).SetsOnly name value where
  setting := by simp [onlyVariable, h]
  noFile _ _ := rfl

theorem readsOnly_onlyFile (path text : String) (content : List (String × Toml))
    (hextension : Path.extension path = "toml")
    (htext : Toml.ofText? text = some (.table content)) :
    (onlyFile path text).ReadsOnly path content where
  extension := hextension
  text := ⟨text, by simp [onlyFile], htext⟩
  noVariables _ h := nomatch h

end Surroundings

namespace Layer

/-- Only variables that set a value matter. -/
theorem environment_filter (s : Surroundings) :
    environment s = environment { s with
      environment := s.environment.filter fun entry => (keyOfVariable? entry.1).isSome } := by
  simp only [environment]
  generalize ([] : Layer) = layer
  induction s.environment generalizing layer with
  | nil => rfl
  | cons entry rest ih =>
      cases hkey : keyOfVariable? entry.1 <;> simp [hkey, ih]

theorem environment_of_setsOnly {s : Surroundings} {name value key : String}
    (h : s.SetsOnly name value) (hkey : keyOfVariable? name = some key) :
    environment s = [(key, ofVariable key value)] := by
  rw [environment_filter, h.setting]
  simp [environment, hkey, Keyed.put, Keyed.insertSorted]

theorem environment_of_noVariables {s : Surroundings}
    (h : ∀ entry ∈ s.environment, keyOfVariable? entry.1 = none) : environment s = [] := by
  have hnone : (s.environment.filter fun entry => (keyOfVariable? entry.1).isSome) = [] := by
    simpa [List.filter_eq_nil_iff] using h
  rw [environment_filter, hnone]
  rfl

theorem global_of_setsOnly {s : Surroundings} {name value : String}
    (h : s.SetsOnly name value) : global s = .ok [] := by
  unfold global
  cases hpath : Settings.Paths.globalFile? s with
  | none => rfl
  | some path => simp [h.noFile path hpath]

theorem explicit_of_file {s : Surroundings} {path text : String}
    (hextension : Path.extension path = "toml") (hstanding : s.standing path = .file text) :
    explicit s path = ofText .toml (displayPath path) text := by
  have hformat : Format.all.find? (·.extension = Path.extension path) = some .toml := by
    rw [hextension]
    rfl
  simp [explicit, hstanding, Standing.exists, ofFile, findFile, hformat]

theorem explicit_of_readsOnly {s : Surroundings} {path : String} {content : List (String × Toml)}
    (h : s.ReadsOnly path content) :
    explicit s path = .ok (ofTomlEntries (some (displayPath path)) content) := by
  obtain ⟨text, hstanding, htoml⟩ := h.text
  simp [explicit_of_file h.extension hstanding, ofText, htoml, ofToml, ofRoot]

end Layer

namespace Settings

theorem ofLayers_defaults (layer layer' : Layer) :
    ofLayers [Layer.defaults, layer, layer'] =
      (decode ((Setting.defaultTree.overlay layer).overlay layer')).mapError .decode := by
  simp only [ofLayers, List.foldl_cons, List.foldl_nil, Setting.overlay_defaults]
  cases decode ((Setting.defaultTree.overlay layer).overlay layer') <;> rfl

theorem load_of_setsOnly {s : Surroundings} {name value key : String}
    (h : s.SetsOnly name value) (hkey : Layer.keyOfVariable? name = some key) :
    load s none =
      (decode (Setting.putAt key (Layer.ofVariable key value) Setting.defaultTree)).mapError
        .decode := by
  simp only [load, Option.elim_none, Layer.global_of_setsOnly h, ofLayers_defaults,
    Layer.environment_of_setsOnly h hkey]
  rfl

theorem load_of_readsOnly {s : Surroundings} {path first : String} {names : List String}
    {v : Toml} (h : s.ReadsOnly path (Toml.alone (first :: names) v))
    (hfirst : Setting.Key.IsName first) :
    load s (some path) =
      (decode (Setting.assign (Layer.ofToml (some (Layer.displayPath path)) v) (first :: names)
        Setting.defaultTree)).mapError .decode := by
  have hput (v root : Setting) : Setting.putAt first v root = Setting.put first v root := by
    rw [show first = Text.join "." [first] from rfl,
      Setting.putAt_join (by simpa using hfirst), Setting.assign_single]
    rfl
  simp only [load, Option.elim_some, Layer.explicit_of_readsOnly h, ofLayers_defaults,
    Layer.environment_of_noVariables h.noVariables, Toml.alone, Layer.ofTomlEntries,
    Setting.overlay, List.foldl_cons, List.foldl_nil, hput, Setting.put_nested]

end Settings

end RecordListing
