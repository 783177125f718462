import Mathlib
import RecordListing.Proofs.DecodedSettings

namespace RecordListing

/-!
# Settings from layers

The environment counts before the file and the file before the defaults, for every setting
by itself. Each setting is the conversion of what the first of these layers gives that sets
it, whatever the layers set elsewhere.
-/

open Setting

/-! ## What a layer sets -/

namespace Setting

def Step.name? : Step → Option String
  | .child name => some name
  | .index _ => none

namespace Key

/-- The names in a key. A key that is no path is a name as it stands. -/
def names (key : String) : List String :=
  match ofText? key with
  | none => [key]
  | some k => k.first :: k.steps.filterMap Step.name?

/-- A key without positions in lists. -/
def IsPlain (key : String) : Prop :=
  ∀ k, ofText? key = some k → ∀ step ∈ k.steps, step.name?.isSome

end Key

theorem map_child_filterMap_name? {steps : List Step} (h : ∀ step ∈ steps, step.name?.isSome) :
    (steps.filterMap Step.name?).map .child = steps := by
  induction steps with
  | nil => rfl
  | cons step steps ih =>
      rw [List.forall_mem_cons] at h
      cases step with
      | child name =>
          have hname : Step.name? (.child name) = some name := rfl
          rw [List.filterMap_cons_some hname, List.map_cons, ih h.2]
      | index i => cases h.1

theorem putAt_of_isPlain {key : String} (h : Key.IsPlain key) (v root : Setting) :
    putAt key v root = assign v (Key.names key) root := by
  rw [putAt, Key.names]
  cases hkey : Key.ofText? key with
  | none => rfl
  | some k =>
      have hsteps := map_child_filterMap_name? (h k hkey)
      obtain ⟨first, steps⟩ := k
      cases steps with
      | nil => rfl
      | cons step steps =>
          rw [assign, List.map_cons]
          exact congrArg (fun steps => putAlong v (.child first :: steps) root) hsteps.symm

end Setting

namespace Layer

/-- The values and empty tables in a layer, with the keys that lead to them. -/
def leaves (layer : Layer) : List Leaf :=
  layer.flatMap fun e =>
    (Setting.leaves e.2).map (Leaf.under ((Key.names e.1).map Text.lower))

/-- A value that a layer gives at a path or, in tables with a single entry each, below it. -/
inductive Sets (layer : Layer) (path : List String) : Setting → Prop
  | value {v : Setting} (h : (path, v) ∈ leaves layer) (hv : v.isTable = false) :
      Sets layer path v
  | part {key : String} {rest : List String} {v : Setting}
      (h : (path ++ key :: rest, v) ∈ leaves layer) :
      Sets layer path (.table none [(key, v)])

/-- No key of a layer has a position. -/
def HasPlainKeys (layer : Layer) : Prop := ∀ e ∈ layer, Key.IsPlain e.1

/-- A layer does not name the same key twice, up to the case of letters. -/
def NamesOnce (layer : Layer) : Prop := (leaves layer).Pairwise fun a b => ¬ a.Clashes b

/-- Keys have no positions and stand once, and where settings are in tables the layer has
nothing but tables. -/
structure IsRegular (layer : Layer) : Prop where
  plain : HasPlainKeys layer
  tables : ∀ leaf ∈ leaves layer, Settings.IsTablePlace leaf.1 → leaf.2.isTable
  once : NamesOnce layer

theorem setAll_leaves {layer : Layer} (h : HasPlainKeys layer) (root : Setting) :
    setAll (leaves layer) (some root) = some (root.overlay layer) := by
  induction layer generalizing root with
  | nil => rfl
  | cons e rest ih =>
      rw [HasPlainKeys, List.forall_mem_cons] at h
      have hnames : ∃ first names, Key.names e.1 = first :: names := by
        rw [Key.names]
        cases Key.ofText? e.1 with
        | none => exact ⟨_, _, rfl⟩
        | some k => exact ⟨_, _, rfl⟩
      obtain ⟨first, names, hkey⟩ := hnames
      have hfirst := setAll_leaves_assign e.2 first names root
      rw [← hkey, ← putAt_of_isPlain h.1] at hfirst
      rw [leaves, List.flatMap_cons, setAll_append, hfirst]
      exact ih h.2 _

end Layer

/-! ## One layer -/

namespace Layer.IsRegular

variable {layer : Layer}

theorem isTable_of_prefix (h : IsRegular layer) {path : List String}
    (hpath : Settings.IsTablePlace path) :
    ∀ leaf ∈ leaves layer, leaf.1 <+: path → leaf.2.isTable :=
  fun leaf hleaf hinitial => h.tables leaf hleaf (hpath.of_prefix hinitial)

/-- The tables that settings are in stay tables. -/
theorem isRecord_overlay (h : IsRegular layer) {root : Setting} {path : List String}
    (hpath : Settings.IsTablePlace path) (hroot : ∀ v ∈ at? path root, IsRecord v) :
    ∀ v ∈ at? path (root.overlay layer), IsRecord v := by
  have hold : ∀ v ∈ (some root).bind (at? path), IsRecord v := hroot
  have hkept := setAll_isRecord (h.isTable_of_prefix hpath) hold
  rwa [setAll_leaves h.plain] at hkept

variable {α : Type} {x : Settings.Item α} {root : Setting}

/-- A setting that the layer sets is the conversion of what it gives. -/
theorem decode_of_sets (h : IsRegular layer) {default a : α} {v : Setting}
    (hsets : Sets layer x.path v)
    (hdecode : x.decode.withDefault default (at? x.path (root.overlay layer)) = .ok a) :
    x.decode v = .ok a := by
  have htree := setAll_leaves h.plain root
  cases hsets with
  | value hmem hv =>
      have hat := setAll_value h.once hmem hv (some root)
      rw [htree, Option.bind_some] at hat
      rwa [hat] at hdecode
  | @part key rest v hmem =>
      rw [List.append_cons] at hmem
      have hat := setAll_ne_none h.once hmem (some root)
      rw [htree, Option.bind_some, at?_append] at hat
      cases hvalue : at? x.path (root.overlay layer) with
      | none =>
          rw [hvalue] at hat
          exact absurd rfl hat
      | some w =>
          rw [hvalue] at hdecode hat
          rw [Option.bind_some, at?_single] at hat
          exact x.decode_entry hdecode (Option.isSome_iff_ne_none.mpr hat) v

/-- What the layer does not set stays as it is, but for a table where nothing was. -/
theorem at?_overlay (h : IsRegular layer) (hsets : ∀ v, ¬ Sets layer x.path v) (root : Setting) :
    at? x.path (root.overlay layer) = at? x.path root ∨
      at? x.path (root.overlay layer) = some empty := by
  have hspares : ∀ leaf ∈ leaves layer, leaf.Spares x.path := by
    intro leaf hleaf
    obtain ⟨path, v⟩ := leaf
    by_cases hbelow : x.path <+: path
    · obtain ⟨rest, rfl⟩ := hbelow
      cases rest with
      | nil =>
          rw [List.append_nil] at hleaf ⊢
          refine .inr ⟨?_, List.prefix_rfl⟩
          by_contra hv
          exact hsets v (.value hleaf (by simpa using hv))
      | cons key rest => exact absurd (.part hleaf) (hsets _)
    · by_cases habove : path <+: x.path
      · refine .inr ⟨?_, habove⟩
        have hne : path ≠ x.path := by
          rintro rfl
          exact hbelow List.prefix_rfl
        exact h.tables _ hleaf (x.isTablePlace_of_prefix habove hne)
      · exact .inl ⟨hbelow, habove⟩
  have hat := setAll_spares hspares (some root)
  rw [setAll_leaves h.plain] at hat
  exact hat.imp_right And.right

/-- A setting that the layer does not set comes from what is below the layer. -/
theorem withDefault_of_not_sets (h : IsRegular layer) {default a : α}
    (hsets : ∀ v, ¬ Sets layer x.path v)
    (hdecode : x.decode.withDefault default (at? x.path (root.overlay layer)) = .ok a) :
    x.decode.withDefault default (at? x.path root) = .ok a := by
  rcases h.at?_overlay hsets root with hsame | hempty
  · rwa [← hsame]
  · rw [hempty] at hdecode
    exact absurd hdecode (x.decode_empty a)

end Layer.IsRegular

/-! ## Three layers -/

namespace Settings

/-- Every setting is what the environment gives if that sets it, else what the file gives if
that sets it, and else its default. -/
structure Layered (settings : Settings) (file environment : Layer) : Prop where
  ofEnvironment : ∀ {α : Type} (x : Item α) (v : Setting),
    environment.Sets x.path v → x.decode v = .ok (x.get settings)
  ofFile : ∀ {α : Type} (x : Item α) (v : Setting),
    (∀ w, ¬ environment.Sets x.path w) → file.Sets x.path v → x.decode v = .ok (x.get settings)
  ofDefault : ∀ {α : Type} (x : Item α),
    (∀ w, ¬ environment.Sets x.path w) → (∀ w, ¬ file.Sets x.path w) →
      x.get settings = x.get {}

theorem isRecord_defaultTree {path : List String} (h : IsTablePlace path) :
    ∀ v ∈ at? path defaultTree, IsRecord v := by
  cases h with
  | root =>
      rintro _ ⟨⟩
      exact ⟨rfl, by decide⟩
  | output =>
      rintro _ ⟨⟩
      exact ⟨rfl, by decide⟩
  | logging =>
      rintro _ ⟨⟩
      exact ⟨rfl, by decide⟩
  | modules => exact nofun
  | entities => exact nofun
  | entity name => exact nofun

theorem Item.withDefault_defaultTree {α : Type} (x : Item α) :
    x.decode.withDefault (x.get {}) (at? x.path defaultTree) = .ok (x.get {}) := by
  cases x <;> rfl

theorem layered_of_decode {file environment : Layer} {settings : Settings}
    (hfile : file.IsRegular) (henvironment : environment.IsRegular)
    (h : decode ((defaultTree.overlay file).overlay environment) = .ok settings) :
    settings.Layered file environment := by
  have htables : ∀ path, IsTablePlace path →
      ∀ v ∈ at? path ((defaultTree.overlay file).overlay environment), IsRecord v :=
    fun path hpath => henvironment.isRecord_overlay hpath
      (hfile.isRecord_overlay hpath (isRecord_defaultTree hpath))
  have hitem {α : Type} (x : Item α) := x.of_decode h htables
  refine ⟨fun x v hv => ?_, fun x v hnot hv => ?_, fun x hnot hnot' => ?_⟩
  · exact henvironment.decode_of_sets hv (hitem x)
  · exact hfile.decode_of_sets hv (henvironment.withDefault_of_not_sets hnot (hitem x))
  · have hdefault := hfile.withDefault_of_not_sets hnot'
      (henvironment.withDefault_of_not_sets hnot (hitem x))
    rw [x.withDefault_defaultTree] at hdefault
    exact (Except.ok.inj hdefault).symm

theorem layered_of_load {s : Surroundings} {file : Option String} {settings : Settings}
    {layer : Layer} (hload : load s file = .ok settings)
    (hlayer : file.elim (Layer.global s) (Layer.explicit s) = .ok layer)
    (hregular : layer.IsRegular) (henvironment : (Layer.environment s).IsRegular) :
    settings.Layered layer (Layer.environment s) := by
  rw [load, hlayer] at hload
  simp only [ofLayers_defaults] at hload
  refine layered_of_decode hregular henvironment ?_
  cases hdecode : decode ((defaultTree.overlay layer).overlay (Layer.environment s)) with
  | error e =>
      rw [hdecode] at hload
      cases hload
  | ok settings' =>
      rw [hdecode] at hload
      exact congrArg Except.ok (Except.ok.inj hload)

theorem Layered.get_eq {file file' environment environment' : Layer}
    {settings settings' : Settings} (h : settings.Layered file environment)
    (h' : settings'.Layered file' environment') {α : Type} (x : Item α)
    (hfile : ∀ v, file'.Sets x.path v ↔ file.Sets x.path v)
    (henvironment : ∀ v, environment'.Sets x.path v ↔ environment.Sets x.path v) :
    x.get settings' = x.get settings := by
  by_cases hsets : ∃ v, environment.Sets x.path v
  · obtain ⟨v, hv⟩ := hsets
    have hvalue := h.ofEnvironment x v hv
    have hvalue' := h'.ofEnvironment x v ((henvironment v).mpr hv)
    exact Except.ok.inj (hvalue'.symm.trans hvalue)
  · have hnot : ∀ w, ¬ environment.Sets x.path w := not_exists.mp hsets
    have hnot' : ∀ w, ¬ environment'.Sets x.path w :=
      fun w hw => hnot w ((henvironment w).mp hw)
    by_cases hsets : ∃ v, file.Sets x.path v
    · obtain ⟨v, hv⟩ := hsets
      have hvalue := h.ofFile x v hnot hv
      have hvalue' := h'.ofFile x v hnot' ((hfile v).mpr hv)
      exact Except.ok.inj (hvalue'.symm.trans hvalue)
    · have hdefault := h.ofDefault x hnot (not_exists.mp hsets)
      have hdefault' := h'.ofDefault x hnot' fun w hw => hsets ⟨w, (hfile w).mp hw⟩
      exact hdefault'.trans hdefault.symm

/-- Besides the environment only the places where a named file may stand are read. -/
theorem load_some_congr {s s' : Surroundings} {path : String}
    (henvironment : s'.environment = s.environment) (hdirectory : s'.directory = s.directory)
    (hstanding : ∀ place ∈ Layer.places path, s'.standing place = s.standing place) :
    load s' (some path) = load s (some path) := by
  have hpath : s'.standing path = s.standing path := hstanding path List.mem_cons_self
  have hlonger (format : Layer.Format) : s'.standing (Layer.longerPath path format) =
      s.standing (Layer.longerPath path format) := by
    cases format <;> exact hstanding _ (by simp [Layer.places, Layer.Format.all])
  simp only [load, Option.elim_some, Layer.explicit, Layer.ofFile, Layer.findFile,
    Layer.environment, henvironment, hdirectory, hpath, hlonger]

end Settings

theorem Layer.sets_iff {layer layer' : Layer} {path : List String}
    (h : ∀ leaf : Leaf, path <+: leaf.1 → (leaf ∈ leaves layer' ↔ leaf ∈ leaves layer))
    (v : Setting) : layer'.Sets path v ↔ layer.Sets path v := by
  constructor
  · rintro (⟨hmem, hv⟩ | hmem)
    · exact .value ((h _ List.prefix_rfl).mp hmem) hv
    · exact .part ((h _ (List.prefix_append _ _)).mp hmem)
  · rintro (⟨hmem, hv⟩ | hmem)
    · exact .value ((h _ List.prefix_rfl).mpr hmem) hv
    · exact .part ((h _ (List.prefix_append _ _)).mpr hmem)

namespace Settings

/-- Settings are layered key by key. With a named file nothing else is read but the
environment, and what layers set elsewhere does not matter to a setting. -/
theorem load_layered {s : Surroundings} {file : Option String} {settings : Settings}
    {layer : Layer} (hload : load s file = .ok settings)
    (hlayer : file.elim (Layer.global s) (Layer.explicit s) = .ok layer)
    (hregular : layer.IsRegular) (henvironment : (Layer.environment s).IsRegular) :
    settings.Layered layer (Layer.environment s) ∧
    (∀ path ∈ file, ∀ s' : Surroundings,
      s'.environment = s.environment → s'.directory = s.directory →
      (∀ place ∈ Layer.places path, s'.standing place = s.standing place) →
      load s' file = .ok settings) ∧
    ∀ (s' : Surroundings) (file' : Option String) (settings' : Settings) (layer' : Layer),
      load s' file' = .ok settings' →
      file'.elim (Layer.global s') (Layer.explicit s') = .ok layer' →
      layer'.IsRegular → (Layer.environment s').IsRegular →
      ∀ {α : Type} (x : Item α),
        (∀ leaf : Leaf, x.path <+: leaf.1 →
          (leaf ∈ layer'.leaves ↔ leaf ∈ layer.leaves) ∧
          (leaf ∈ (Layer.environment s').leaves ↔ leaf ∈ (Layer.environment s).leaves)) →
        x.get settings' = x.get settings := by
  have hlayered := layered_of_load hload hlayer hregular henvironment
  refine ⟨hlayered, ?_, ?_⟩
  · rintro path ⟨⟩ s' henv hdirectory hstanding
    rw [load_some_congr henv hdirectory hstanding, hload]
  · intro s' file' settings' layer' hload' hlayer' hregular' henvironment' α x hleaves
    exact hlayered.get_eq (layered_of_load hload' hlayer' hregular' henvironment') x
      (Layer.sets_iff fun leaf hleaf => (hleaves leaf hleaf).1)
      (Layer.sets_iff fun leaf hleaf => (hleaves leaf hleaf).2)

end Settings

/-! ## A file beside a variable -/

namespace Setting.Key

theorem names_of_eq {key : String} {k : Key} (h : ofText? key = some k) :
    names key = k.first :: k.steps.filterMap Step.name? := by
  rw [names, h]

theorem names_join {first : String} {rest : List String}
    (h : ∀ name ∈ first :: rest, IsName name) :
    names (Text.join "." (first :: rest)) = first :: rest := by
  rw [names_of_eq (ofText?_join h), List.filterMap_map]
  exact congrArg _ List.filterMap_some

theorem isPlain_join {first : String} {rest : List String}
    (h : ∀ name ∈ first :: rest, IsName name) : IsPlain (Text.join "." (first :: rest)) := by
  intro k hk
  rw [ofText?_join h] at hk
  obtain rfl := Option.some.inj hk
  simp [Step.name?]

end Setting.Key

namespace Layer

theorem leaves_nested {origin : Option String} {v : Toml} (hv : (ofToml origin v).isTable = false)
    (names : List String) :
    Setting.leaves (ofToml origin (.nested names v)) =
      [(names.map Text.lower, ofToml origin v)] := by
  induction names with
  | nil => exact leaves_of_not_table hv
  | cons name names ih =>
      simp [Toml.nested, ofToml, ofTomlEntries, Setting.leaves, entryLeaves, ih, Leaf.under]

theorem leaves_alone {origin : Option String} {v : Toml} (hv : (ofToml origin v).isTable = false)
    {first : String} (hfirst : Key.IsName first) (names : List String) :
    leaves (ofTomlEntries origin (Toml.alone (first :: names) v)) =
      [((first :: names).map Text.lower, ofToml origin v)] := by
  have hkey := Key.names_join (List.forall_mem_singleton.mpr hfirst)
  rw [Text.join] at hkey
  simp [leaves, Toml.alone, ofTomlEntries, leaves_nested hv, hkey, Leaf.under]

theorem leaves_join {v : Setting} (hv : v.isTable = false) {first : String} {names : List String}
    (h : ∀ name ∈ first :: names, Key.IsName name) :
    leaves [(Text.join "." (first :: names), v)] = [((first :: names).map Text.lower, v)] := by
  simp [leaves, leaves_of_not_table hv, Key.names_join h, Leaf.under]

theorem isRegular_of_leaf {e : String × Setting} {leaf : Leaf} (hplain : Key.IsPlain e.1)
    (hleaves : leaves [e] = [leaf]) (hplace : ¬ Settings.IsTablePlace leaf.1) :
    IsRegular [e] where
  plain := by simpa [HasPlainKeys] using hplain
  tables := by simp [hleaves, hplace]
  once := by simp [NamesOnce, hleaves]

theorem not_sets_of_leaf {layer : Layer} {leaf : Leaf} (hleaves : leaves layer = [leaf])
    {path : List String} (h : ¬ path <+: leaf.1) (v : Setting) : ¬ Sets layer path v := by
  rintro (⟨hmem, -⟩ | hmem)
  · rw [hleaves, List.mem_singleton] at hmem
    exact h (hmem ▸ List.prefix_rfl)
  · rw [hleaves, List.mem_singleton] at hmem
    exact h (hmem ▸ List.prefix_append _ _)

theorem not_sets_nil {path : List String} (v : Setting) : ¬ Sets [] path v := by
  rintro (⟨hmem, -⟩ | hmem) <;> exact absurd hmem List.not_mem_nil

theorem eq_of_sets {layer : Layer} {path : List String} {v w : Setting}
    (hleaves : leaves layer = [(path, w)]) (h : Sets layer path v) : v = w := by
  rcases h with ⟨hmem, -⟩ | hmem
  · rw [hleaves, List.mem_singleton] at hmem
    exact (Prod.mk.inj hmem).2
  · rw [hleaves, List.mem_singleton] at hmem
    simpa using (Prod.mk.inj hmem).1

variable {α : Type} {x : Settings.Item α} {first : String} {names : List String}
    (hpath : (first :: names).map Text.lower = x.path)
include hpath

theorem sets_alone {origin : Option String} {v : Toml} (hv : (ofToml origin v).isTable = false)
    (hfirst : Key.IsName first) :
    IsRegular (ofTomlEntries origin (Toml.alone (first :: names) v)) ∧
      Sets (ofTomlEntries origin (Toml.alone (first :: names) v)) x.path (ofToml origin v) := by
  have hplain := Key.isPlain_join (List.forall_mem_singleton.mpr hfirst)
  rw [Text.join] at hplain
  have hleaves := leaves_alone hv hfirst names
  rw [hpath] at hleaves
  exact ⟨isRegular_of_leaf hplain hleaves x.not_isTablePlace,
    .value (hleaves ▸ List.mem_singleton_self _) hv⟩

theorem sets_join {v : Setting} (hv : v.isTable = false)
    (h : ∀ name ∈ first :: names, Key.IsName name) :
    IsRegular [(Text.join "." (first :: names), v)] ∧
      Sets [(Text.join "." (first :: names), v)] x.path v := by
  have hleaves := leaves_join hv h
  rw [hpath] at hleaves
  exact ⟨isRegular_of_leaf (Key.isPlain_join h) hleaves x.not_isTablePlace,
    .value (hleaves ▸ List.mem_singleton_self _) hv⟩

end Layer

def Surroundings.fileAndVariable (path text name value : String) : Surroundings :=
  { onlyFile path text with environment := [(name, value)] }

theorem Layer.environment_fileAndVariable (path text value : String) {name key : String}
    (hkey : keyOfVariable? name = some key) :
    environment (.fileAndVariable path text name value) = [(key, ofVariable key value)] := by
  simp [environment, Surroundings.fileAndVariable, hkey, Keyed.put, Keyed.insertSorted]

theorem Layer.explicit_fileAndVariable {path text : String} {content : List (String × Toml)}
    (hextension : Path.extension path = "toml")
    (htext : Toml.ofText? text = some (.table content)) (name value : String) :
    explicit (.fileAndVariable path text name value) path =
      .ok (ofTomlEntries (some (displayPath path)) content) :=
  (explicit_of_readsOnly (Surroundings.readsOnly_onlyFile path text content hextension htext) :)

namespace Settings

/-- The columns from a file and the order from a variable are both kept. -/
theorem load_layered_entity :
    ∃ settings, load (.fileAndVariable "c.toml" "[entities.user]\ndefault_columns = [\"email\"]\n"
        "SLTABLE__ENTITIES__USER__DEFAULT_SORT" "username") (some "c.toml") = .ok settings ∧
      (Item.columns "user").get settings = some [.ofText "email"] ∧
      (Item.order "user").get settings = some "username" := by
  have hload : load (.fileAndVariable "c.toml" "[entities.user]\ndefault_columns = [\"email\"]\n"
      "SLTABLE__ENTITIES__USER__DEFAULT_SORT" "username") (some "c.toml") =
      .ok { entities := [("user", ⟨some [.ofText "email"], some "username"⟩)] } := by
    decide +kernel
  have htext : Toml.ofText? "[entities.user]\ndefault_columns = [\"email\"]\n" = some (.table
      (Toml.alone ["entities", "user", "default_columns"] (.array [.text "email"]))) := by
    cbv
  have hlayer := Layer.explicit_fileAndVariable (by decide : Path.extension "c.toml" = "toml")
    htext "SLTABLE__ENTITIES__USER__DEFAULT_SORT" "username"
  have hkey : Layer.keyOfVariable? "SLTABLE__ENTITIES__USER__DEFAULT_SORT" =
      some (Text.join "." ["entities", "user", "default_sort"]) := by
    decide +kernel
  have hnames : ∀ name ∈ ["entities", "user", "default_sort"], Key.IsName name := by decide
  have henvironment := Layer.environment_fileAndVariable "c.toml"
    "[entities.user]\ndefault_columns = [\"email\"]\n" "username" hkey
  have hvalue : Layer.ofVariable (Text.join "." ["entities", "user", "default_sort"]) "username" =
      .scalar (some Layer.environmentOrigin) (.text "username") := by
    cbv
  rw [hvalue] at henvironment
  generalize Surroundings.fileAndVariable "c.toml"
    "[entities.user]\ndefault_columns = [\"email\"]\n" "SLTABLE__ENTITIES__USER__DEFAULT_SORT"
    "username" = s at hload hlayer henvironment ⊢
  have hcolumns : ["entities", "user", "default_columns"].map Text.lower =
      (Item.columns "user").path := by
    decide
  have horder : ["entities", "user", "default_sort"].map Text.lower =
      (Item.order "user").path := by
    decide
  obtain ⟨hfile, hfileSets⟩ := Layer.sets_alone hcolumns
    (rfl : (Layer.ofToml (some (Layer.displayPath "c.toml")) (.array [.text "email"])).isTable =
      false)
    (hnames _ List.mem_cons_self)
  obtain ⟨hvariable, hvariableSets⟩ := Layer.sets_join horder
    (rfl : (Setting.scalar (some Layer.environmentOrigin) (.text "username")).isTable = false)
    hnames
  have hapart : ¬ (Item.columns "user").path <+:
      ["entities", "user", "default_sort"].map Text.lower := by
    rw [horder]
    decide
  have hnot := Layer.not_sets_of_leaf (Layer.leaves_join
    (rfl : (Setting.scalar (some Layer.environmentOrigin) (.text "username")).isTable = false)
    hnames) hapart
  rw [← henvironment] at hvariable hvariableSets hnot
  obtain ⟨hlayered, -, -⟩ := load_layered hload hlayer hfile hvariable
  have hcolumnsKept := hlayered.ofFile (.columns "user") _ hnot hfileSets
  have horderKept := hlayered.ofEnvironment (.order "user") _ hvariableSets
  exact ⟨_, hload, (Except.ok.inj hcolumnsKept).symm, (Except.ok.inj horderKept).symm⟩

/-! ## Where settings are not layered -/

/-- A setting is the conversion of what one of the layers gives, or its default. -/
def Item.ComesFrom {α : Type} (x : Item α) (settings : Settings) (layers : List Layer) : Prop :=
  (∃ layer ∈ layers, ∃ v, layer.Sets x.path v ∧ x.decode v = .ok (x.get settings)) ∨
    x.get settings = x.get {}

theorem not_comesFrom {α : Type} {x : Item α} {settings : Settings} {layers : List Layer}
    (hlayers : ∀ layer ∈ layers, ∀ v, layer.Sets x.path v → x.decode v ≠ .ok (x.get settings))
    (hdefault : x.get settings ≠ x.get {}) : ¬ x.ComesFrom settings layers := by
  rintro (⟨layer, hlayer, v, hsets, hdecode⟩ | heq)
  · exact hlayers layer hlayer v hsets hdecode
  · exact hdefault heq

/-- From a file and the environment, whose layers meet a condition, a setting gets a value
that is neither from one of them nor its default. -/
def Item.Strays {α : Type} (x : Item α) (s : Surroundings) (path : String)
    (condition : Layer → Prop) : Prop :=
  ∃ settings layer, load s (some path) = .ok settings ∧ Layer.explicit s path = .ok layer ∧
    (∀ l ∈ [layer, Layer.environment s], condition l) ∧
    ¬ x.ComesFrom settings [layer, Layer.environment s]

/-- A variable for the first item of a list changes the list of a file. -/
theorem strays_of_position :
    (Item.columns "volume").Strays (.fileAndVariable "c.toml"
        "[entities.volume]\ndefault_columns = [\"id\", \"username\", \"notes\"]\n"
        "SLTABLE__ENTITIES__VOLUME__DEFAULT_COLUMNS[0]" "capacity_gb") "c.toml" fun layer =>
      (∀ leaf ∈ layer.leaves, IsTablePlace leaf.1 → leaf.2.isTable) ∧ layer.NamesOnce := by
  have hload : load (.fileAndVariable "c.toml"
      "[entities.volume]\ndefault_columns = [\"id\", \"username\", \"notes\"]\n"
      "SLTABLE__ENTITIES__VOLUME__DEFAULT_COLUMNS[0]" "capacity_gb") (some "c.toml") =
      .ok { entities := [("volume",
        ⟨some [.ofText "capacity_gb", .ofText "username", .ofText "notes"], none⟩)] } := by
    decide +kernel
  have htext : Toml.ofText?
      "[entities.volume]\ndefault_columns = [\"id\", \"username\", \"notes\"]\n" =
      some (.table (Toml.alone ["entities", "volume", "default_columns"]
        (.array [.text "id", .text "username", .text "notes"]))) := by
    cbv
  have hlayer := Layer.explicit_fileAndVariable (by decide : Path.extension "c.toml" = "toml")
    htext "SLTABLE__ENTITIES__VOLUME__DEFAULT_COLUMNS[0]" "capacity_gb"
  have hkey : Layer.keyOfVariable? "SLTABLE__ENTITIES__VOLUME__DEFAULT_COLUMNS[0]" =
      some "entities.volume.default_columns[0]" := by
    decide +kernel
  have hvalue : Layer.ofVariable "entities.volume.default_columns[0]" "capacity_gb" =
      .scalar (some Layer.environmentOrigin) (.text "capacity_gb") := by
    cbv
  have henvironment := Layer.environment_fileAndVariable "c.toml"
    "[entities.volume]\ndefault_columns = [\"id\", \"username\", \"notes\"]\n" "capacity_gb"
    hkey
  rw [hvalue] at henvironment
  have hpath : ["entities", "volume", "default_columns"].map Text.lower =
      (Item.columns "volume").path := by
    decide
  have hfile := Layer.leaves_alone
    (rfl : (Layer.ofToml (some (Layer.displayPath "c.toml"))
      (.array [.text "id", .text "username", .text "notes"])).isTable = false)
    (by decide : Key.IsName "entities") ["volume", "default_columns"]
  have hnames : Key.names "entities.volume.default_columns[0]" =
      ["entities", "volume", "default_columns"] :=
    Key.names_of_eq (by decide : Key.ofText? "entities.volume.default_columns[0]" =
      some ⟨"entities", [.child "volume", .child "default_columns", .index 0]⟩)
  have hvariable : Layer.leaves [("entities.volume.default_columns[0]",
      .scalar (some Layer.environmentOrigin) (.text "capacity_gb"))] =
      [((Item.columns "volume").path,
        .scalar (some Layer.environmentOrigin) (.text "capacity_gb"))] := by
    simp [Layer.leaves, Setting.leaves, Leaf.under, hnames, hpath]
  rw [hpath] at hfile
  refine ⟨_, _, hload, hlayer, ?_, ?_⟩
  · rw [henvironment]
    simp only [List.forall_mem_cons, Layer.NamesOnce, hfile, hvariable]
    simp [Item.not_isTablePlace]
  · rw [henvironment]
    refine not_comesFrom ?_ (by decide)
    simp only [List.forall_mem_cons]
    refine ⟨fun v hsets => ?_, fun v hsets => ?_, List.forall_mem_nil _⟩
    · rw [Layer.eq_of_sets hfile hsets]
      decide
    · rw [Layer.eq_of_sets hvariable hsets]
      intro hdecode
      cases hdecode

/-- A list for a table sets what is in the table. -/
theorem strays_of_list :
    Item.defaultMode.Strays (.onlyFile "c.toml" "output = [\"json\"]\n") "c.toml" fun layer =>
      layer.HasPlainKeys ∧ layer.NamesOnce ∧
        ∀ leaf ∈ layer.leaves, IsTablePlace leaf.1 → ∀ origin v, leaf.2 ≠ .scalar origin v := by
  have hload : load (.onlyFile "c.toml" "output = [\"json\"]\n") (some "c.toml") =
      .ok { output := { defaultMode := .json } } := by
    decide +kernel
  have hread := Surroundings.readsOnly_onlyFile "c.toml" "output = [\"json\"]\n"
    (Toml.alone ["output"] (.array [.text "json"])) (by decide) (by cbv)
  have henvironment := Layer.environment_of_noVariables hread.noVariables
  have hleaves := Layer.leaves_alone
    (rfl : (Layer.ofToml (some (Layer.displayPath "c.toml")) (.array [.text "json"])).isTable =
      false) (by decide : Key.IsName "output") []
  have hlower : ["output"].map Text.lower = ["output"] := by decide
  rw [hlower] at hleaves
  have hplain := Key.isPlain_join (List.forall_mem_singleton.mpr
    (by decide : Key.IsName "output"))
  rw [Text.join] at hplain
  refine ⟨_, _, hload, Layer.explicit_of_readsOnly hread, ?_, ?_⟩
  · rw [henvironment]
    simp only [List.forall_mem_cons, Layer.NamesOnce, hleaves]
    simp [Layer.HasPlainKeys, Toml.alone, Layer.ofTomlEntries, hplain, Layer.leaves, Layer.ofToml]
  · rw [henvironment]
    refine not_comesFrom ?_ (by decide)
    simp only [List.forall_mem_cons]
    exact ⟨fun v hsets => absurd hsets (Layer.not_sets_of_leaf hleaves (by decide) v),
      fun v hsets => absurd hsets (Layer.not_sets_nil v),
      List.forall_mem_nil _⟩

/-- Keys with positions and lists for tables set what no layer gives by itself. -/
theorem load_not_layered :
    ((Item.columns "volume").Strays (.fileAndVariable "c.toml"
        "[entities.volume]\ndefault_columns = [\"id\", \"username\", \"notes\"]\n"
        "SLTABLE__ENTITIES__VOLUME__DEFAULT_COLUMNS[0]" "capacity_gb") "c.toml" fun layer =>
      (∀ leaf ∈ layer.leaves, IsTablePlace leaf.1 → leaf.2.isTable) ∧ layer.NamesOnce) ∧
    Item.defaultMode.Strays (.onlyFile "c.toml" "output = [\"json\"]\n") "c.toml" fun layer =>
      layer.HasPlainKeys ∧ layer.NamesOnce ∧
        ∀ leaf ∈ layer.leaves, IsTablePlace leaf.1 → ∀ origin v, leaf.2 ≠ .scalar origin v :=
  ⟨strays_of_position, strays_of_list⟩

end Settings

end RecordListing
