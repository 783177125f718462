import Mathlib
import RecordListing.Proofs.Declarations
import RecordListing.Proofs.Overriding
import RecordListing.Proofs.Pruning
import RecordListing.Row

namespace RecordListing

/-!
# Registered paths

A column is registered only if the path of its field is well-formed. The path that its display
rule follows into the items of a list is not looked at: display rules have no part in whether a
declaration is accepted. Along a malformed one nothing is found in items whose keys are well-formed,
and the cell of a list is empty.
-/

/-! ## Texts of paths -/

/-- One or more keys between dots, each of one or more ASCII letters, digits and underscores. -/
def IsPathText (text : String) : Prop :=
  ∃ keys : List String, keys ≠ [] ∧
    (∀ key ∈ keys, key ≠ "" ∧ ∀ c ∈ key.toList, c.isAlphanum = true ∨ c = '_') ∧
    text = Text.join "." keys

theorem isPathText_iff {text : String} :
    IsPathText text ↔ ∃ path : FieldPath, path.toText = text := by
  constructor
  · rintro ⟨keys, hne, hkeys, rfl⟩
    exact ⟨⟨keys, hne, fun key hkey => isSegment_iff.mpr (hkeys key hkey)⟩, rfl⟩
  · rintro ⟨path, rfl⟩
    exact ⟨path.segments, path.segments_ne_nil,
      fun key hkey => isSegment_iff.mp (path.isSegment_of_mem key hkey), rfl⟩

theorem isPathText_iff_parts {text : String} :
    IsPathText text ↔ ∀ key ∈ Text.parts '.' text, isSegment key = true := by
  simp only [isPathText_iff, ← FieldPath.ofText?_eq_some_iff, ← Option.isSome_iff_exists,
    FieldPath.isSome_ofText?_iff]

instance (text : String) : Decidable (IsPathText text) :=
  decidable_of_iff _ isPathText_iff_parts.symm

/-! ## Keys that are missed -/

namespace Json

/-- An object within the value has the key, with only objects around it. -/
inductive HasKey (key : String) : Json → Prop
  | here {members : Members} {v : Json} (h : Keyed.get? key members = some v) :
      HasKey key (.obj members)
  | deeper {other : String} {members : Members} {v : Json} (h : Keyed.get? other members = some v)
      (hv : HasKey key v) : HasKey key (.obj members)

theorem hasKey_of_lookup {keys : List String} {v w : Json} (h : lookup keys v = some w) :
    ∀ key ∈ keys, v.HasKey key := by
  induction keys generalizing v with
  | nil => simp
  | cons first rest ih =>
      obtain ⟨members, v', rfl, hfirst, hrest⟩ := lookup_cons_eq_some h
      rw [List.forall_mem_cons]
      exact ⟨.here hfirst, fun key hkey => .deeper hfirst (ih hrest key hkey)⟩

theorem joinedText_of_missed {keys : List String} {key : String} (hkey : key ∈ keys)
    {items : List Json} (h : ∀ item ∈ items, ¬ item.HasKey key) :
    joinedText keys (.arr items) = "" := by
  have hmissed : items.filterMap (lookup keys) = [] := by
    rw [List.filterMap_eq_nil_iff]
    intro item hitem
    rw [Option.eq_none_iff_forall_ne_some]
    intro w hw
    exact h item hitem (hasKey_of_lookup hw key hkey)
  rw [joinedText, hmissed]
  rfl

end Json

/-! ## What is looked at -/

/-- The paths that a display rule follows. -/
def DisplayRule.pathTexts : DisplayRule → List String
  | .join path => [path]
  | _ => []

theorem DisplayRule.mem_pathTexts {rule : DisplayRule} {text : String} :
    text ∈ rule.pathTexts ↔ rule = .join text := by
  cases rule <;> simp [pathTexts, eq_comm]

namespace Declaration

/-- The declaration with other display rules. -/
def redisplay (d : Declaration) (rule : ColumnDeclaration → DisplayRule) : Declaration :=
  { d with columns := d.columns.map fun c => { c with display := rule c } }

variable {d : Declaration} (rule : ColumnDeclaration → DisplayRule)

theorem registeredNames_redisplay :
    registeredNames (d.redisplay rule).columns = registeredNames d.columns := by
  simp [registeredNames, redisplay]

theorem IsValid.redisplay (h : d.IsValid) : (d.redisplay rule).IsValid where
  columns := by
    refine ⟨?_, ?_, ?_⟩
    · exact List.forall_mem_map.mpr fun c hc => h.columns.hasPath c hc
    · rw [registeredNames_redisplay]
      exact h.columns.nodup
    · rw [registeredNames_redisplay]
      exact h.columns.new
  registered := by
    intro entry hentry
    rw [Registered, registeredNames_redisplay]
    exact h.registered entry hentry
  defaults_ne_nil := h.defaults_ne_nil
  not_both := h.not_both
  sortable := h.sortable

end Declaration

namespace Entity

/-- A malformed path of a field is a defect of the columns, and those are looked at first. -/
theorem exists_firstColumnDefect {d : Declaration}
    (h : ∃ c ∈ d.columns, ¬ IsPathText c.path) :
    ∃ x, FirstColumnDefect [] d.columns x ∧ ofDeclaration d = .error ⟨d.kind, x⟩ := by
  obtain ⟨c, hc, hpath⟩ := h
  cases hregister : register d.kind [] d.columns with
  | ok columns =>
      have hregistrable := (register_eq_ok_iff.mp hregister).1
      exact absurd (isPathText_iff.mpr (hregistrable.hasPath c hc)) hpath
  | error err =>
      obtain ⟨-, hfirst⟩ := register_eq_error_iff.mp hregister
      exact ⟨err.defect, hfirst, ofDeclaration_of_firstDefect (.column hfirst)⟩

/-- Below a malformed path the display rule of a column finds nothing. -/
theorem WellFormed.cell_of_malformed {e : Entity} (h : e.WellFormed) {c : Column}
    (hc : c ∈ e.columns) {text : String} (htext : text ∈ c.display.pathTexts)
    (hmalformed : ¬ IsPathText text) {record : Json} {items : List Json}
    (hfield : record.field? c.path = some (.arr items))
    (hkeys : ∀ item ∈ items, ∀ key, item.HasKey key → isSegment key = true) :
    Row.cell e record c.name = "" := by
  rw [isPathText_iff_parts] at hmalformed
  push Not at hmalformed
  obtain ⟨key, hkey, hsegment⟩ := hmalformed
  rw [DisplayRule.mem_pathTexts] at htext
  rw [Row.cell, h.column?_of_mem hc]
  simp only [hfield, htext]
  exact Json.joinedText_of_missed hkey fun item hitem hhas => hsegment (hkeys item hitem key hhas)

theorem isPathText_of_registry {overrides : Kind → Option Override} {r : Registry}
    (hr : Registry.withOverrides overrides = .ok r) (kind : Kind) {c : Column}
    (hc : c ∈ (r.entity kind).columns) : ∀ text ∈ c.display.pathTexts, IsPathText text := by
  obtain ⟨declared, hdeclared, hgiven⟩ := exists_declared_of_registry hr hc
  have hcatalogue : ∀ kind, ∀ declared ∈ (Catalogue.declaration kind).columns,
      ∀ text ∈ declared.display.pathTexts, IsPathText text := by
    intro kind
    cases kind <;> decide
  rw [hgiven.display]
  exact hcatalogue kind declared hdeclared

/-- The path of every field that an entity reads, sorts by or asks for is well-formed, and a
declaration with a malformed one is refused for the first defect of its columns. The paths that
display rules follow into items are as they are declared: no rule is a reason to refuse a
declaration, and a malformed path shows a list as if nothing were in it. Those of the catalogue
are well-formed. -/
theorem ofDeclaration_paths {d : Declaration} {e₀ : Entity} (h : ofDeclaration d = .ok e₀)
    (os : List Override) :
    let e := e₀.overrideAll os
    (∀ c ∈ e.columns, IsPathText c.path.toText ∧
      Text.parts '.' c.path.toText = c.path.segments) ∧
    (∀ key requested s, e.select key requested = .ok s →
      ∀ path ∈ (Mask.ofSelection e s).paths, ∃ c ∈ e.columns, c.path = path) ∧
    (∀ d' : Declaration, (∃ c ∈ d'.columns, ¬ IsPathText c.path) →
      ∃ x, FirstColumnDefect [] d'.columns x ∧ ofDeclaration d' = .error ⟨d'.kind, x⟩) ∧
    ((∀ c ∈ e.columns, ∀ text ∈ c.display.pathTexts, IsPathText text) ↔
      ∀ c ∈ d.columns, ∀ text ∈ c.display.pathTexts, IsPathText text) ∧
    (∀ rule, ∃ e', ofDeclaration (d.redisplay rule) = .ok e') ∧
    (∀ c ∈ e.columns, ∀ text ∈ c.display.pathTexts, ¬ IsPathText text →
      ∀ record items, Json.field? c.path record = some (.arr items) →
        (∀ item ∈ items, ∀ key, Json.HasKey key item → isSegment key = true) →
        Row.cell e record c.name = "") ∧
    ∀ overrides r, Registry.withOverrides overrides = .ok r →
      ∀ kind, ∀ c ∈ (r.entity kind).columns, ∀ text ∈ c.display.pathTexts, IsPathText text := by
  intro e
  have hbuilt := builtFrom_of_ofDeclaration h
  have hformed : e.WellFormed := hbuilt.wellFormed.overrideAll os
  obtain ⟨-, hcolumns, -⟩ : SameFrame e₀ e := sameFrame_overrideAll e₀ os
  refine ⟨?_, ?_, fun d' => exists_firstColumnDefect, ?_, ?_, ?_, ?_⟩
  · intro c _
    exact ⟨isPathText_iff.mpr ⟨c.path, rfl⟩, c.path.parts_toText⟩
  · intro key requested s _ path hpath
    obtain ⟨name, -, c, hc, hpath⟩ := Mask.mem_ofSelection.mp hpath
    exact ⟨c, List.mem_of_find?_eq_some hc, hpath⟩
  · rw [hcolumns]
    constructor
    · intro hpaths c hc
      obtain ⟨column, hcolumn, hgives⟩ := exists_gives_of_mem hbuilt.gives.columns hc
      rw [← hgives.display]
      exact hpaths column hcolumn
    · intro hpaths column hcolumn
      obtain ⟨c, hc, hgives⟩ := exists_declared_of_mem hbuilt.gives.columns hcolumn
      rw [hgives.display]
      exact hpaths c hc
  · intro rule
    exact exists_ofDeclaration (hbuilt.isValid.redisplay rule)
  · intro c hc text htext hmalformed record items hfield hkeys
    exact hformed.cell_of_malformed hc htext hmalformed hfield hkeys
  · intro overrides r hr kind c hc
    exact isPathText_of_registry hr kind hc

/-- The display rule of the tags has an empty key. -/
def doubledDot : Declaration where
  kind := .user
  columns := [⟨"id", "id", .integer, "ID", .raw⟩,
    ⟨"tags", "tagReferences", .text, "Tags", .join "tag..name"⟩]
  defaults := ["id", "tags"]
  optional := []
  sortable := ["id"]
  defaultSort := none

/-- The one tag of the record is not shown. -/
theorem ofDeclaration_paths_doubledDot :
    let record : Json := .obj [("tagReferences", .arr [.obj [("tag", .obj [("name", .str "db")])]])]
    ∃ e₀, ofDeclaration doubledDot = .ok e₀ ∧
      (∀ c ∈ (e₀.overrideAll []).columns, IsPathText c.path.toText) ∧
      (¬ ∀ c ∈ (e₀.overrideAll []).columns, ∀ text ∈ c.display.pathTexts, IsPathText text) ∧
      Row.cell e₀ record (.ofText "tags") = "" := by
  intro record
  obtain ⟨e₀, he₀, hcell⟩ : ∃ e₀, ofDeclaration doubledDot = .ok e₀ ∧
      Row.cell e₀ record (.ofText "tags") = "" :=
    exists_ok_of_any (by decide)
  obtain ⟨hpaths, -, -, hdeclared, -⟩ := ofDeclaration_paths he₀ []
  exact ⟨e₀, he₀, fun c hc => (hpaths c hc).1, fun h => absurd (hdeclared.mp h) (by decide), hcell⟩

/-- A declaration with a malformed path is accepted. -/
theorem ofDeclaration_admits_malformed :
    ¬ ∀ (d : Declaration) (e : Entity), ofDeclaration d = .ok e →
      ∀ c ∈ e.columns, ∀ text ∈ c.path.toText :: c.display.pathTexts, IsPathText text := by
  intro hpaths
  obtain ⟨e, he, hmalformed⟩ : ∃ e, ofDeclaration doubledDot = .ok e ∧
      ¬ ∀ c ∈ e.columns, ∀ text ∈ c.path.toText :: c.display.pathTexts, IsPathText text :=
    exists_ok_of_any (by decide)
  exact hmalformed (hpaths doubledDot e he)

end Entity

end RecordListing
