import Mathlib
import RecordListing.Proofs.LowerCase
import RecordListing.Proofs.Pruning
import RecordListing.Proofs.ShownNumbers

namespace RecordListing

/-!
# Cells of absent fields

A field that is absent shows as a hyphen. A field that is present shows as something else,
unless the hyphen is in the record itself, as a string: no number, no list without items and no
object is written so, and a cell that is lower-cased was a hyphen before.
-/

namespace Json

/-! ## Absent values -/

/-- Along the keys there is a null, or an object without the key, or a value that is no object
though more keys follow. -/
inductive Lacks : List String → Json → Prop
  | null : Lacks [] .null
  | key {key : String} {rest : List String} {members : Members}
      (h : Keyed.get? key members = none) : Lacks (key :: rest) (.obj members)
  | object {key : String} {rest : List String} {v : Json}
      (h : ∀ members, v ≠ .obj members) : Lacks (key :: rest) v
  | deeper {key : String} {rest : List String} {members : Members} {v : Json}
      (h : Keyed.get? key members = some v) (hrest : Lacks rest v) :
      Lacks (key :: rest) (.obj members)

theorem lookup_eq_none_iff {keys : List String} {v : Json} :
    lookup keys v = none ↔ Lacks keys v := by
  constructor
  · intro h
    induction keys generalizing v with
    | nil =>
        cases v with
        | null => exact .null
        | _ => cases h
    | cons key rest ih =>
        cases v with
        | obj members =>
            cases hkey : Keyed.get? key members with
            | none => exact .key hkey
            | some w =>
                rw [lookup, hkey, Option.bind_some] at h
                exact .deeper hkey (ih h)
        | _ => exact .object fun _ => Json.noConfusion
  · intro h
    induction h with
    | null => rfl
    | key hkey => rw [lookup, hkey, Option.bind_none]
    | object hobject =>
        rename_i v
        cases v with
        | obj members => exact absurd rfl (hobject members)
        | _ => rfl
    | deeper hkey _ ih => rw [lookup, hkey, Option.bind_some, ih]

theorem field?_eq_none_iff {path : FieldPath} {record : Json} :
    record.field? path = none ↔ record.Lacks path.segments :=
  lookup_eq_none_iff

/-- No null is found. -/
theorem ne_null_of_lookup {keys : List String} {v w : Json} (h : lookup keys v = some w) :
    w ≠ .null := by
  rintro rfl
  have hnone := lookup_append keys [] v
  rw [List.append_nil, h, Option.bind_some, lookup_null] at hnone
  cases hnone

/-! ## Strings within a value -/

/-- A text stands in a value as a string: as the value itself, or in one of its items or
members at any depth. Keys are no values. -/
inductive Holds (s : String) : Json → Prop
  | here : Holds s (.str s)
  | item {items : List Json} {v : Json} (hv : v ∈ items) (h : Holds s v) : Holds s (.arr items)
  | member {members : Members} {m : String × Json} (hm : m ∈ members) (h : Holds s m.2) :
      Holds s (.obj members)

@[simp] theorem not_holds_null (s : String) : ¬ Json.null.Holds s := nofun

@[simp] theorem holds_arr_iff {s : String} {items : List Json} :
    (Json.arr items).Holds s ↔ ∃ v ∈ items, v.Holds s := by
  constructor
  · rintro (_ | ⟨hv, h⟩)
    exact ⟨_, hv, h⟩
  · rintro ⟨v, hv, h⟩
    exact .item hv h

@[simp] theorem holds_obj_iff {s : String} {members : Members} :
    (Json.obj members).Holds s ↔ ∃ m ∈ members, m.2.Holds s := by
  constructor
  · rintro (_ | _ | ⟨hm, h⟩)
    exact ⟨_, hm, h⟩
  · rintro ⟨m, hm, h⟩
    exact .member hm h

theorem Holds.of_lookup {s : String} {keys : List String} {v w : Json}
    (h : lookup keys v = some w) (hw : w.Holds s) : v.Holds s := by
  induction keys generalizing v with
  | nil =>
      cases lookup_nil_eq_some h
      exact hw
  | cons key rest ih =>
      obtain ⟨members, u, rfl, hu, hrest⟩ := lookup_cons_eq_some h
      exact .member (Keyed.mem_of_get? hu) (ih hrest)

/-! ## Texts of values -/

theorem integerText_ne_hyphen (n : Int) : String.ofList (integerText n) ≠ absentText := by
  intro h
  have hread := isInteger_integerText n
  rw [String.ofList_inj.mp h, isInteger_iff] at hread
  exact hread.1 rfl

theorem write_ne_hyphen (x : Binary64) : String.ofList (Number.style.write x) ≠ absentText := by
  intro h
  have hpoint : Number.style.pointZero = true := rfl
  obtain ⟨c, hc, hmark⟩ := Binary64.exists_mark_write hpoint x
  rw [String.ofList_inj.mp h] at hc
  rcases hmark with rfl | rfl <;> exact absurd hc (by decide)

theorem numberText_ne_hyphen (n : Number) : (Json.num n).toText ≠ absentText := by
  cases n with
  | int n => exact integerText_ne_hyphen n
  | float x => exact write_ne_hyphen x

theorem objectText_ne_hyphen (members : Members) : (Json.obj members).toText ≠ absentText := by
  intro h
  cases members <;> cases String.ofList_inj.mp h

theorem toList_comma : ",".toList = [','] := rfl

theorem mem_plainTexts_cons {text : String} {v : Json} {vs : List Json}
    (h : text ∈ plainTexts (v :: vs)) : v ≠ .null ∧ v.plainText = text ∨ text ∈ plainTexts vs := by
  cases v with
  | null => exact .inr h
  | _ =>
      rcases List.mem_cons.mp h with htext | hrest
      · exact .inl ⟨Json.noConfusion, htext.symm⟩
      · exact .inr hrest

mutual

/-- A value other than null that shows as a hyphen holds one. -/
theorem holds_of_plainText :
    ∀ v : Json, v ≠ .null → v.plainText = absentText → v.Holds absentText
  | .null, hnull, _ => absurd rfl hnull
  | .bool b, _, h => by cases b <;> exact absurd h (by decide)
  | .num n, _, h => absurd h (numberText_ne_hyphen n)
  | .str s, _, h => by
      rw [plainText] at h
      exact h ▸ .here
  | .arr items, _, h => by
      rw [plainText] at h
      obtain ⟨v, hv, hholds⟩ :=
        holds_of_mem_plainTexts items (Text.mem_of_join toList_comma (by decide) (by decide) h)
      exact .item hv hholds
  | .obj members, _, h => absurd h (objectText_ne_hyphen members)

theorem holds_of_mem_plainTexts :
    ∀ items : List Json, absentText ∈ plainTexts items → ∃ v ∈ items, v.Holds absentText
  | [], h => nomatch h
  | v :: vs, h => by
      rcases mem_plainTexts_cons h with ⟨hnull, htext⟩ | hrest
      · exact ⟨v, List.mem_cons_self, holds_of_plainText v hnull htext⟩
      · obtain ⟨w, hw, hholds⟩ := holds_of_mem_plainTexts vs hrest
        exact ⟨w, List.mem_cons_of_mem v hw, hholds⟩

end

/-- So does a value of which the parts below some keys show as one. -/
theorem holds_of_joinedText {keys : List String} {v : Json} (hnull : v ≠ .null)
    (h : v.joinedText keys = absentText) : v.Holds absentText := by
  cases v with
  | arr items =>
      have hmem := Text.mem_of_join toList_comma (by decide) (by decide) h
      obtain ⟨w, hw, htext⟩ := List.mem_map.mp hmem
      obtain ⟨item, hitem, hlookup⟩ := List.mem_filterMap.mp hw
      have hholds := holds_of_plainText w (ne_null_of_lookup hlookup) htext
      exact .item hitem (hholds.of_lookup hlookup)
  | _ => exact holds_of_plainText _ hnull h

theorem holds_of_integralText {v : Json} (hnull : v ≠ .null)
    (h : v.integralText = absentText) : v.Holds absentText := by
  cases v with
  | num a =>
      rcases Number.integralText_eq a with ⟨n, -, htext⟩ | ⟨-, x, -, htext⟩
      · exact absurd (htext.symm.trans h) (integerText_ne_hyphen n)
      · exact absurd (htext.symm.trans h) (write_ne_hyphen x)
  | _ => exact holds_of_plainText _ hnull h

theorem holds_of_timestampText {v : Json} (hnull : v ≠ .null)
    (h : v.timestampText = absentText) : v.Holds absentText := by
  cases v with
  | str s =>
      rw [timestampText, Timestamp.normalText] at h
      split at h
      · rename_i t _
        have hmark : 'T' ∈ t.write := by simp [Timestamp.write]
        rw [String.ofList_inj.mp h] at hmark
        exact absurd hmark (by decide)
      · exact h ▸ .here
  | _ => exact holds_of_plainText _ hnull h

theorem holds_of_countText {v : Json} (hnull : v ≠ .null)
    (h : v.countText = absentText) : v.Holds absentText := by
  cases v with
  | arr items => exact absurd h (integerText_ne_hyphen items.length)
  | _ => exact holds_of_plainText _ hnull h

end Json

theorem ValueKind.holds_of_cellText {kind : ValueKind} {v : Json} (hnull : v ≠ .null)
    (h : kind.cellText v = absentText) : v.Holds absentText := by
  cases kind with
  | integer => exact Json.holds_of_integralText hnull h
  | text => exact Json.holds_of_plainText v hnull h
  | timestamp => exact Json.holds_of_timestampText hnull h
  | count => exact Json.holds_of_countText hnull h

theorem DisplayRule.holds_of_cellText {rule : DisplayRule} {kind : ValueKind} {v : Json}
    (hnull : v ≠ .null) (h : rule.cellText kind v = absentText) : v.Holds absentText := by
  cases rule with
  | raw => exact kind.holds_of_cellText hnull h
  | lowercase => exact kind.holds_of_cellText hnull (Text.lower_eq_singleton (by decide) rfl h)
  | join path => exact Json.holds_of_joinedText hnull h

namespace Row

variable {e : Entity} {name : ColumnName} {c : Column}

theorem cell_of_lacks (hc : e.column? name = some c) {record : Json}
    (h : record.Lacks c.path.segments) : cell e record name = absentText := by
  have hnone := Json.field?_eq_none_iff.mpr h
  simp only [cell, hc, hnone]

theorem cell_of_field? (hc : e.column? name = some c) {record v : Json}
    (h : record.field? c.path = some v) :
    cell e record name = c.display.cellText c.kind v := by
  simp only [cell, hc, h]

/-- The cell of a registered column, in whichever row of a record, is a hyphen where the record
lacks the field of the column. Where it has the field, the cell is something else, if no string
within the value is a hyphen. -/
theorem cell_absent (hc : e.column? name = some c) (record : Json) (columns : List ColumnName)
    {text : String} (htext : (name, text) ∈ (project e columns record).cells) :
    (record.Lacks c.path.segments → text = "-") ∧
    (¬ record.Lacks c.path.segments → ∃ v, record.field? c.path = some v ∧
      (¬ v.Holds "-" → text ≠ "-")) := by
  obtain ⟨name', -, heq⟩ := List.mem_map.mp htext
  obtain ⟨rfl, rfl⟩ := Prod.mk.inj heq
  refine ⟨cell_of_lacks hc, fun hhas => ?_⟩
  cases hfield : record.field? c.path with
  | none => exact absurd (Json.field?_eq_none_iff.mp hfield) hhas
  | some v =>
      refine ⟨v, rfl, mt fun hhyphen => ?_⟩
      rw [cell_of_field? hc hfield] at hhyphen
      exact DisplayRule.holds_of_cellText (Json.ne_null_of_lookup hfield) hhyphen

/-- A list of tags without names is present and shows as nothing, next to an absent field. -/
theorem cell_absent_tags :
    let tags := Json.arr [.obj [("tag", .null)], .obj []]
    let record := Json.obj [("hardwareStatus", .str "up"), ("tagReferences", tags)]
    let columns : List ColumnName := [.ofText "tags", .ofText "status"]
    ∃ e, Entity.ofDeclaration Catalogue.hardware = .ok e ∧ ¬ tags.Holds "-" ∧
      ∃ shown absent, (project e columns record).cells =
        [(.ofText "tags", shown), (.ofText "status", absent)] ∧ shown ≠ "-" ∧ absent = "-" := by
  intro tags record columns
  obtain ⟨e, he⟩ := Entity.exists_ofDeclaration_catalogue .hardware
  have hbuilt := Entity.builtFrom_of_ofDeclaration he
  have hcolumn (declared : ColumnDeclaration) (path : FieldPath)
      (hdeclared : declared ∈ (Catalogue.declaration .hardware).columns)
      (hpath : path.toText = declared.path) :
      ∃ c, e.column? (.ofText declared.name) = some c ∧ c.path = path := by
    obtain ⟨c, hc, hgives⟩ := hbuilt.exists_column? hdeclared
    exact ⟨c, hc, FieldPath.toText_injective (hgives.path.trans hpath.symm)⟩
  obtain ⟨c, hc, hpath⟩ := hcolumn ⟨"tags", "tagReferences", .text, "Tags", .join "tag.name"⟩
    ⟨["tagReferences"], by decide, by decide⟩
    (by simp [Catalogue.declaration, Catalogue.hardware, Catalogue.hardwareColumns]) rfl
  obtain ⟨c', hc', hpath'⟩ := hcolumn ⟨"status", "hardwareStatus.status", .text, "Status", .raw⟩
    ⟨["hardwareStatus", "status"], by decide, by decide⟩
    (by simp [Catalogue.declaration, Catalogue.hardware, Catalogue.hardwareColumns]) rfl
  have hholds : ¬ tags.Holds "-" := by simp [tags]
  have hfield : record.field? c.path = some tags := by
    rw [hpath]
    rfl
  have hfield' : record.field? c'.path = none := by
    rw [hpath']
    rfl
  have hpresent : ¬ record.Lacks c.path.segments := by
    rw [← Json.field?_eq_none_iff, hfield]
    exact Option.some_ne_none tags
  obtain ⟨v, hv, hshown⟩ := (cell_absent hc record columns List.mem_cons_self).2 hpresent
  obtain rfl : v = tags := Option.some.inj (hv.symm.trans hfield)
  refine ⟨e, he, hholds, _, _, rfl, hshown hholds, ?_⟩
  exact (cell_absent hc' record columns (List.mem_cons_of_mem _ List.mem_cons_self)).1
    (Json.field?_eq_none_iff.mp hfield')

end Row

end RecordListing
