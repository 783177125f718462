import RecordListing.Proofs.ConfiguredOverrides
import RecordListing.Proofs.ScalarReading
import RecordListing.Proofs.SettingLayers

namespace RecordListing

/-!
# Default columns from the environment

A file can set the default columns of every kind. The environment can do so for the
kinds whose lists it knows; for the others the value stays a text, which is no list of
columns, and there are no settings at all.
-/

/-- The settings that have the default columns of one kind. -/
def Settings.ofColumns (kind : Kind) (columns : List ColumnName) : Settings where
  entities := [(kind.name, { defaultColumns := some columns })]

/-- The variable for the default columns of a kind. -/
def Kind.columnsVariable (kind : Kind) : String :=
  "SLTABLE__ENTITIES__" ++ kind.name.map Char.toUpper ++ "__DEFAULT_COLUMNS"

/-- The names in the key of the default columns of a kind. -/
def Kind.columnsPath (kind : Kind) : List String := ["entities", kind.name, "default_columns"]

theorem Kind.keyOfVariable?_columnsVariable (kind : Kind) :
    Layer.keyOfVariable? kind.columnsVariable = some (Text.join "." kind.columnsPath) := by
  cases kind <;> decide +kernel

theorem Kind.isName_columnsPath (kind : Kind) :
    ∀ name ∈ kind.columnsPath, Setting.Key.IsName name := by
  cases kind <;> decide

theorem Kind.lower_columnsPath (kind : Kind) :
    Text.lower kind.name = kind.name ∧ Text.lower "default_columns" = "default_columns" := by
  cases kind <;> decide

/-- The kinds whose default columns the environment knows to be a list. -/
theorem Kind.columnsPath_mem_listKeys_iff (kind : Kind) :
    Text.join "." kind.columnsPath ∈ Layer.listKeys ↔
      kind ≠ .virtualServer ∧ kind ≠ .hostGuest := by
  cases kind <;> decide

/-! ## Values for default columns -/

def columnTexts (origin : Option String) (columns : List ColumnName) : Setting :=
  .list origin (columns.map fun c => .scalar origin (.text c.text))

theorem Decoder.list_columnTexts (origin : Option String) (columns : List ColumnName) :
    Decoder.list ColumnName.decode (columnTexts origin columns) = .ok columns := by
  have hitems : ∀ i, Decoder.decodeItems ColumnName.decode i
      (columns.map fun c => .scalar origin (.text c.text)) = .ok columns := by
    induction columns with
    | nil => exact fun _ => rfl
    | cons c columns ih =>
        intro i
        simp [Decoder.decodeItems, ColumnName.decode, Decoder.text, Except.map, ih,
          ColumnName.ofText_text]
  exact hitems 0

theorem Layer.ofToml_columns (origin : Option String) (columns : List ColumnName) :
    Layer.ofToml origin (.array (columns.map fun column => .text column.text)) =
      columnTexts origin columns := by
  rw [Layer.ofToml, columnTexts]
  congr 1
  induction columns with
  | nil => rfl
  | cons column columns ih => rw [List.map_cons, List.map_cons, Layer.ofTomlItems, ih]; rfl

theorem Settings.decode_columns (kind : Kind) {v : Setting}
    (hv : ∀ origin entries, v ≠ .table origin entries) :
    Settings.decode (Setting.assign v kind.columnsPath Setting.defaultTree) =
      ((Override.decode (.table none [("default_columns", v)])).mapError
        fun e => (e.under kind.name).under "entities").map
        fun o => { entities := [(kind.name, o)] } := by
  obtain ⟨hkind, hfield⟩ := kind.lower_columnsPath
  have hentity : Setting.assign v [kind.name, "default_columns"] Setting.unset =
      .table none [(kind.name, .table none [("default_columns", v)])] := by
    rw [Setting.assign_cons, Setting.assign_single, Setting.put_of_not_table hv, hkind, hfield]
    rfl
  rw [Kind.columnsPath, Setting.assign_entities, hentity, Setting.decode_entities]

theorem Override.decode_columnTexts (origin : Option String) (columns : List ColumnName) :
    Override.decode (.table none [("default_columns", columnTexts origin columns)]) =
      .ok { defaultColumns := some columns } := by
  have hoptional : Decoder.optional (Decoder.list ColumnName.decode) (columnTexts origin columns) =
      .ok (some columns) := by
    rw [columnTexts, Decoder.optional, ← columnTexts, Decoder.list_columnTexts]
    · rfl
    · exact fun _ h => nomatch h
  simp [Override.decode, Decoder.record, Decoder.decodeFields, Decoder.field, hoptional,
    Except.map]

theorem Override.decode_columnsText (origin : Option String) (value : String) :
    Override.decode (.table none [("default_columns", .scalar origin (.text value))]) =
      .error (.wrongShape (.text value) "a sequence") := by
  rfl

theorem Settings.decode_columnTexts (kind : Kind) (origin : Option String)
    (columns : List ColumnName) :
    Settings.decode (Setting.assign (columnTexts origin columns) kind.columnsPath
      Setting.defaultTree) = .ok (ofColumns kind columns) := by
  have hlist (o : Option String) (entries : List (String × Setting)) :
      columnTexts origin columns ≠ .table o entries := by
    simp [columnTexts]
  rw [decode_columns kind hlist, Override.decode_columnTexts]
  rfl

theorem Settings.decode_columnsText (kind : Kind) (origin : Option String) (value : String) :
    Settings.decode (Setting.assign (.scalar origin (.text value)) kind.columnsPath
      Setting.defaultTree) = .error (.wrongShape (.text value) "a sequence") := by
  have hscalar (o : Option String) (entries : List (String × Setting)) :
      Setting.scalar origin (.text value) ≠ .table o entries := by
    simp
  rw [decode_columns kind hscalar, Override.decode_columnsText]
  rfl

/-! ## Displayable columns -/

/-- Names of columns have no comma and read as no scalar. -/
theorem plain_of_mem_declaration (kind : Kind) : ∀ name ∈
    (Catalogue.declaration kind).defaults ++ (Catalogue.declaration kind).optional,
      ',' ∉ (ColumnName.ofText name).text.toList ∧
        Layer.scalarOf? (ColumnName.ofText name).text = none := by
  cases kind <;> decide +kernel

theorem plain_of_displayable {kind : Kind} {base : Entity}
    (h : Entity.ofDeclaration (Catalogue.declaration kind) = .ok base) {column : ColumnName}
    (hcolumn : base.Displayable column) :
    ',' ∉ column.text.toList ∧ Layer.scalarOf? column.text = none := by
  rw [(Entity.builtFrom_of_ofDeclaration h).displayable_iff, List.mem_map, List.mem_map] at hcolumn
  rcases hcolumn with ⟨name, hname, rfl⟩ | ⟨name, hname, rfl⟩
  · exact plain_of_mem_declaration kind name (List.mem_append_left _ hname)
  · exact plain_of_mem_declaration kind name (List.mem_append_right _ hname)

theorem scalarOf?_join {kind : Kind} {base : Entity}
    (h : Entity.ofDeclaration (Catalogue.declaration kind) = .ok base) {columns : List ColumnName}
    (hcolumns : ∀ column ∈ columns, base.Displayable column) (hne : columns ≠ []) :
    Layer.scalarOf? (Text.join "," (columns.map (·.text))) = none := by
  obtain ⟨column, columns, rfl⟩ := List.exists_cons_of_ne_nil hne
  cases columns with
  | nil => exact (plain_of_displayable h (hcolumns column List.mem_cons_self)).2
  | cons column' columns =>
      apply Layer.scalarOf?_of_comma
      rw [List.map_cons, Text.join_cons (by simp)]
      simp

/-! ## The registry under default columns -/

theorem Kind.ofText?_name (kind : Kind) : Kind.ofText? kind.name = some kind := by
  cases kind <;> decide

theorem Settings.override?_ofColumns (kind other : Kind) (columns : List ColumnName) :
    (Settings.ofColumns kind columns).override? other =
      if other = kind then some { defaultColumns := some columns } else none := by
  by_cases hkind : other = kind
  · simp [Settings.override?, Settings.ofColumns, kind.ofText?_name, hkind]
  · simp [Settings.override?, Settings.ofColumns, kind.ofText?_name, hkind, Ne.symm hkind]

theorem Settings.exists_registry_ofColumns {kind : Kind} {base : Entity}
    (h : Entity.ofDeclaration (Catalogue.declaration kind) = .ok base) {columns : List ColumnName}
    (hne : columns ≠ []) (hcolumns : ∀ column ∈ columns, base.Displayable column) :
    ∃ r, (Settings.ofColumns kind columns).registry = .ok r ∧
      (r.entity kind).defaults = distinct columns := by
  let o : Override := { defaultColumns := some columns }
  have haccepts : base.AcceptsColumns o :=
    (Entity.acceptsColumns_iff_of_some rfl).mpr ⟨hne, hcolumns⟩
  have hoverride := Entity.override_of_accepted haccepts (base.acceptsSort_of_none rfl)
  have hconfigured : Registry.configured kind ((Settings.ofColumns kind columns).override? kind) =
      .ok (base.overridden o) := by
    rw [override?_ofColumns, if_pos rfl, Registry.configured_of_declared h, Option.elim_some,
      hoverride, Attempt.toExcept_eq_ok_iff]
    exact ⟨rfl, rfl⟩
  obtain ⟨r, hr, hentity⟩ := Registry.exists_withOverrides_single hconfigured fun other hother => by
    rw [override?_ofColumns, if_neg hother]
  refine ⟨r, registry_eq_ok_iff.mpr ⟨?_, hr⟩, ?_⟩
  · simp [Settings.ofColumns, kind.ofText?_name]
  · rw [hentity]
    rfl

/-! ## Both ways to set default columns -/

namespace Settings

section Both

variable {kind : Kind} {base : Entity} {columns : List ColumnName}
    (hbase : Entity.ofDeclaration (Catalogue.declaration kind) = .ok base) (hne : columns ≠ [])
    (hcolumns : ∀ column ∈ columns, base.Displayable column)

theorem load_columns_of_readsOnly {s : Surroundings} {path : String}
    (h : s.ReadsOnly path [("entities", .table [(kind.name, .table [("default_columns",
      .array (columns.map fun column => .text column.text))])])]) :
    load s (some path) = .ok (ofColumns kind columns) := by
  have hloaded := load_of_readsOnly (show s.ReadsOnly path (Toml.alone kind.columnsPath _) from h)
    (by decide)
  rw [hloaded, Layer.ofToml_columns, ← Kind.columnsPath, decode_columnTexts]
  rfl

include hbase hne hcolumns

theorem load_columns_of_setsOnly {s : Surroundings}
    (h : s.SetsOnly kind.columnsVariable (Text.join "," (columns.map (·.text)))) :
    load s none =
      if kind = .virtualServer ∨ kind = .hostGuest then .error (.decode
        (.wrongShape (.text (Text.join "," (columns.map (·.text)))) "a sequence"))
      else .ok (ofColumns kind columns) := by
  have hscalar := scalarOf?_join hbase hcolumns hne
  have hput := Setting.putAt_join kind.isName_columnsPath
  have hparts : Text.parts ',' (Text.join "," (columns.map (·.text))) = columns.map (·.text) := by
    apply Text.parts_join rfl (by simpa using hne)
    rw [List.forall_mem_map]
    exact fun column hcolumn => (plain_of_displayable hbase (hcolumns column hcolumn)).1
  rw [load_of_setsOnly h kind.keyOfVariable?_columnsVariable, Layer.ofVariable_eq, hscalar,
    Kind.columnsPath, hput, ← Kind.columnsPath, hparts]
  dsimp only
  by_cases hkind : kind = .virtualServer ∨ kind = .hostGuest
  · have hunlisted : Text.join "." kind.columnsPath ∉ Layer.listKeys := by
      rw [kind.columnsPath_mem_listKeys_iff, ← not_or, not_not]
      exact hkind
    rw [if_pos hkind, if_neg hunlisted, decode_columnsText]
    rfl
  · have hlisted : Text.join "." kind.columnsPath ∈ Layer.listKeys := by
      rw [kind.columnsPath_mem_listKeys_iff, ← not_or]
      exact hkind
    rw [if_neg hkind, if_pos hlisted, List.map_map]
    exact congrArg (Except.mapError _) (decode_columnTexts kind _ columns)

/-- A file gives default columns to every kind. A variable does the same for the kinds whose
lists the environment knows, and for the other two nothing is loaded. -/
theorem load_defaultColumns {s s' : Surroundings} {path : String}
    (henvironment : s.SetsOnly kind.columnsVariable (Text.join "," (columns.map (·.text))))
    (hfile : s'.ReadsOnly path [("entities", .table [(kind.name, .table [("default_columns",
      .array (columns.map fun column => .text column.text))])])]) :
    load s' (some path) = .ok (ofColumns kind columns) ∧
    (∃ r, (ofColumns kind columns).registry = .ok r ∧ (r.entity kind).defaults = distinct columns) ∧
    (load s none = load s' (some path) ↔ kind ≠ .virtualServer ∧ kind ≠ .hostGuest) ∧
    (kind = .virtualServer ∨ kind = .hostGuest → load s none = .error (.decode
      (.wrongShape (.text (Text.join "," (columns.map (·.text)))) "a sequence"))) := by
  have hloaded := load_columns_of_readsOnly hfile
  have hset := load_columns_of_setsOnly hbase hne hcolumns henvironment
  refine ⟨hloaded, exists_registry_ofColumns hbase hne hcolumns, ?_, fun hkind => ?_⟩
  · rw [hset, hloaded, ← not_or]
    by_cases hkind : kind = .virtualServer ∨ kind = .hostGuest
    · rw [if_pos hkind]
      exact ⟨fun h => absurd h (by simp), fun h => absurd hkind h⟩
    · rw [if_neg hkind]
      exact ⟨fun _ => hkind, fun _ => rfl⟩
  · rw [hset, if_pos hkind]

end Both

section Texts

variable (kind : Kind) {columns : List ColumnName} {texts : List String}
    (htexts : columns.map (·.text) = texts)
include htexts

theorem setsOnly_columns :
    (Surroundings.onlyVariable kind.columnsVariable (Text.join "," texts)).SetsOnly
      kind.columnsVariable (Text.join "," (columns.map (·.text))) := by
  rw [htexts]
  exact Surroundings.setsOnly_onlyVariable kind.keyOfVariable?_columnsVariable _

theorem readsOnly_columns (path text : String) (hextension : Path.extension path = "toml")
    (htoml : Toml.ofText? text = some (.table [("entities", .table [(kind.name,
      .table [("default_columns", .array (texts.map .text))])])])) :
    (Surroundings.onlyFile path text).ReadsOnly path [("entities", .table [(kind.name,
      .table [("default_columns", .array (columns.map fun column => .text column.text))])])] := by
  rw [← htexts, List.map_map] at htoml
  exact Surroundings.readsOnly_onlyFile path text _ hextension htoml

end Texts

/-- Users have the same columns by default from a file and from a variable. -/
theorem load_defaultColumns_user :
    load (.onlyFile "user.toml" "[entities.user]\ndefault_columns = [\"email\", \"username\"]\n")
        (some "user.toml") = .ok (ofColumns .user [.ofText "email", .ofText "username"]) ∧
      load (.onlyVariable "SLTABLE__ENTITIES__USER__DEFAULT_COLUMNS" "email,username") none =
        .ok (ofColumns .user [.ofText "email", .ofText "username"]) := by
  obtain ⟨base, hbase, hcolumns⟩ : ∃ base,
      Entity.ofDeclaration (Catalogue.declaration .user) = .ok base ∧
        ∀ column ∈ [ColumnName.ofText "email", .ofText "username"], base.Displayable column :=
    exists_ok_of_any (by decide +kernel)
  have htexts : [ColumnName.ofText "email", .ofText "username"].map (·.text) =
      ["email", "username"] := by
    decide
  have hset := setsOnly_columns .user htexts
  have hread := readsOnly_columns .user htexts "user.toml"
    "[entities.user]\ndefault_columns = [\"email\", \"username\"]\n"
    (by decide) (by cbv)
  obtain ⟨hloaded, -, hsame, -⟩ := load_defaultColumns hbase (by simp) hcolumns hset hread
  have hvariable : Kind.columnsVariable .user = "SLTABLE__ENTITIES__USER__DEFAULT_COLUMNS" := by
    decide +kernel
  have hset' := hsame.mpr (by decide)
  rw [hvariable] at hset'
  exact ⟨hloaded, hset'.trans hloaded⟩

/-- Virtual servers have no default columns from a variable, though they have them from a file. -/
theorem load_refuses_columns :
    ¬ ∀ (kind : Kind) (base : Entity) (columns : List ColumnName) (s s' : Surroundings)
      (path : String), Entity.ofDeclaration (Catalogue.declaration kind) = .ok base →
      columns ≠ [] → (∀ column ∈ columns, base.Displayable column) →
      s.SetsOnly kind.columnsVariable (Text.join "," (columns.map (·.text))) →
      s'.ReadsOnly path [("entities", .table [(kind.name, .table [("default_columns",
        .array (columns.map fun column => .text column.text))])])] →
      load s none = load s' (some path) := by
  intro hsame
  obtain ⟨base, hbase, hcolumns⟩ : ∃ base,
      Entity.ofDeclaration (Catalogue.declaration .virtualServer) = .ok base ∧
        ∀ column ∈ [ColumnName.ofText "id", .ofText "hostname"], base.Displayable column :=
    exists_ok_of_any (by decide +kernel)
  have htexts : [ColumnName.ofText "id", .ofText "hostname"].map (·.text) = ["id", "hostname"] := by
    decide
  have hset := setsOnly_columns .virtualServer htexts
  have hread := readsOnly_columns .virtualServer htexts "servers.toml"
    "[entities.virtual_server]\ndefault_columns = [\"id\", \"hostname\"]\n"
    (by decide) (by cbv)
  have hloaded := hsame .virtualServer base _ _ _ _ hbase (by simp) hcolumns hset hread
  rw [load_columns_of_setsOnly hbase (by simp) hcolumns hset, load_columns_of_readsOnly hread,
    if_pos (.inl rfl)] at hloaded
  cases hloaded

end Settings

end RecordListing
