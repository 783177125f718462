import RecordListing.Proofs.AbsentCells

namespace RecordListing

/-!
# Joined paths

Two texts around a dot are read as a path just if each of them is, and the path has the keys of
the one and then of the other. Looking up along it is looking up along the first path and then
along the second from there. A field is absent where the keys break off on the way.
-/

namespace FieldPath

instance : Append FieldPath where
  append path path' :=
    ⟨path.segments ++ path'.segments, by simp [path.segments_ne_nil], by
      rw [List.forall_mem_append]
      exact ⟨path.isSegment_of_mem, path'.isSegment_of_mem⟩⟩

@[simp] theorem segments_append (path path' : FieldPath) :
    (path ++ path').segments = path.segments ++ path'.segments := rfl

theorem toText_append (path path' : FieldPath) :
    (path ++ path').toText = path.toText ++ "." ++ path'.toText := by
  have hparts : Text.parts '.' (path.toText ++ "." ++ path'.toText) =
      (path ++ path').segments := by
    rw [Text.parts_append rfl, parts_toText, parts_toText, segments_append]
  rw [toText, ← hparts]
  exact Text.join_parts rfl _

theorem ofText?_append {p q : String} {path path' : FieldPath} (hp : ofText? p = some path)
    (hq : ofText? q = some path') : ofText? (p ++ "." ++ q) = some (path ++ path') := by
  rw [ofText?_eq_some_iff] at hp hq ⊢
  rw [toText_append, hp, hq]

theorem isSome_ofText?_append (p q : String) :
    (ofText? (p ++ "." ++ q)).isSome = true ↔
      (ofText? p).isSome = true ∧ (ofText? q).isSome = true := by
  rw [isSome_ofText?_iff, Text.parts_append rfl, List.forall_mem_append, isSome_ofText?_iff,
    isSome_ofText?_iff]

end FieldPath

namespace Json

theorem field?_append (path path' : FieldPath) (v : Json) :
    v.field? (path ++ path') = (v.field? path).bind (field? path') :=
  lookup_append path.segments path'.segments v

/-! ## What keys lead to -/

/-- The keys lead down from one value to another, through an object at each of them. What they
lead to may be a null. -/
inductive Leads : List String → Json → Json → Prop
  | here {v : Json} : Leads [] v v
  | member {key : String} {rest : List String} {members : Members} {u w : Json}
      (h : Keyed.get? key members = some u) (hrest : Leads rest u w) :
      Leads (key :: rest) (.obj members) w

section Leads

variable {key : String} {keys keys' : List String} {v w w' : Json}

theorem leads_nil_iff : Leads [] v w ↔ v = w := by
  constructor
  · rintro ⟨⟩
    rfl
  · rintro rfl
    exact .here

theorem leads_cons_iff :
    Leads (key :: keys) v w ↔
      ∃ members u, v = .obj members ∧ Keyed.get? key members = some u ∧ Leads keys u w := by
  constructor
  · rintro (_ | ⟨h, hrest⟩)
    exact ⟨_, _, rfl, h, hrest⟩
  · rintro ⟨members, u, rfl, h, hrest⟩
    exact .member h hrest

theorem leads_append_iff :
    Leads (keys ++ keys') v w ↔ ∃ u, Leads keys v u ∧ Leads keys' u w := by
  induction keys generalizing v with
  | nil => simp [leads_nil_iff]
  | cons key keys ih =>
      simp only [List.cons_append, leads_cons_iff, ih]
      constructor
      · rintro ⟨members, u, rfl, hu, x, hx, hw⟩
        exact ⟨x, ⟨members, u, rfl, hu, hx⟩, hw⟩
      · rintro ⟨x, ⟨members, u, rfl, hu, hx⟩, hw⟩
        exact ⟨members, u, rfl, hu, x, hx, hw⟩

theorem Leads.unique (h : Leads keys v w) (h' : Leads keys v w') : w = w' := by
  induction h with
  | here => exact leads_nil_iff.mp h'
  | member hu _ ih =>
      obtain ⟨members, u, hmembers, hu', hrest⟩ := leads_cons_iff.mp h'
      cases hmembers
      cases hu.symm.trans hu'
      exact ih hrest

theorem leads_of_lookup (h : lookup keys v = some w) : Leads keys v w := by
  induction keys generalizing v with
  | nil => exact leads_nil_iff.mpr (lookup_nil_eq_some h)
  | cons key keys ih =>
      obtain ⟨members, u, rfl, hu, hrest⟩ := lookup_cons_eq_some h
      exact .member hu (ih hrest)

end Leads

/-! ## Where keys break off -/

/-- Some of the keys, from the first on, lead to nothing or to a null, or lead to a value that is
no object though more keys follow. -/
def BreaksOff (keys : List String) (v : Json) : Prop :=
  ∃ before after, keys = before ++ after ∧
    ((∀ w, ¬ Leads before v w) ∨ Leads before v .null ∨
      after ≠ [] ∧ ∃ w, Leads before v w ∧ ∀ members, w ≠ .obj members)

theorem BreaksOff.cons {key : String} {keys : List String} {members : Members} {u : Json}
    (hu : Keyed.get? key members = some u) (h : BreaksOff keys u) :
    BreaksOff (key :: keys) (.obj members) := by
  obtain ⟨before, after, rfl, h⟩ := h
  refine ⟨key :: before, after, rfl, ?_⟩
  rcases h with hnone | hnull | ⟨hafter, w, hw, hobject⟩
  · refine .inl fun w hw => ?_
    obtain ⟨members', u', hmembers, hu', hrest⟩ := leads_cons_iff.mp hw
    cases hmembers
    cases hu.symm.trans hu'
    exact hnone w hrest
  · exact .inr (.inl (.member hu hnull))
  · exact .inr (.inr ⟨hafter, w, .member hu hw, hobject⟩)

theorem Lacks.breaksOff {keys : List String} {v : Json} (h : Lacks keys v) :
    BreaksOff keys v := by
  induction h with
  | null => exact ⟨[], [], rfl, .inr (.inl .here)⟩
  | key hkey =>
      rename_i key rest members
      refine ⟨[key], rest, rfl, .inl fun w hw => ?_⟩
      obtain ⟨members', u, hmembers, hu, -⟩ := leads_cons_iff.mp hw
      cases hmembers
      cases hkey.symm.trans hu
  | object hobject =>
      rename_i key rest v
      exact ⟨[], key :: rest, rfl, .inr (.inr ⟨by simp, v, .here, hobject⟩)⟩
  | deeper hkey _ ih => exact ih.cons hkey

/-- Keys that lead to something other than a null do not break off. -/
theorem not_breaksOff_of_lookup {keys : List String} {v w : Json} (h : lookup keys v = some w) :
    ¬ BreaksOff keys v := by
  rintro ⟨before, after, rfl, hbreaks⟩
  obtain ⟨u, hu, hafter⟩ := leads_append_iff.mp (leads_of_lookup h)
  rcases hbreaks with hnone | hnull | ⟨hne, u', hu', hobject⟩
  · exact hnone u hu
  · cases hu.unique hnull
    -- Nothing is below a null, so it would have to be what is found.
    cases hafter
    exact ne_null_of_lookup h rfl
  · cases hu.unique hu'
    obtain ⟨key, rest, rfl⟩ := List.exists_cons_of_ne_nil hne
    obtain ⟨members, -, hmembers, -⟩ := leads_cons_iff.mp hafter
    exact hobject members hmembers

theorem lookup_eq_none_iff_breaksOff {keys : List String} {v : Json} :
    lookup keys v = none ↔ BreaksOff keys v := by
  constructor
  · intro h
    exact (lookup_eq_none_iff.mp h).breaksOff
  · intro h
    rw [Option.eq_none_iff_forall_ne_some]
    intro w hw
    exact not_breaksOff_of_lookup hw h

end Json

namespace FieldPath

/-- A text around a dot is read as a path just if both sides are, its keys are those of the two
paths, and looking up along it is looking up along the one and then, from what is found, along the
other. No null is found, and nothing is found just where the keys break off. -/
theorem lookup_composes (p q : String) :
    ((ofText? (p ++ "." ++ q)).isSome = true ↔
      (ofText? p).isSome = true ∧ (ofText? q).isSome = true) ∧
    (∀ path path' joined, ofText? p = some path → ofText? q = some path' →
      ofText? (p ++ "." ++ q) = some joined →
        joined.segments = path.segments ++ path'.segments ∧
        ∀ v : Json, (v.field? path = none → v.field? joined = none) ∧
          ∀ w, v.field? path = some w → v.field? joined = w.field? path') ∧
    ∀ (path : FieldPath) (v : Json),
      (∀ w, v.field? path = some w → w ≠ .null) ∧
      (v.field? path = none ↔ Json.BreaksOff path.segments v) := by
  refine ⟨isSome_ofText?_append p q, ?_, fun path v => ⟨?_, ?_⟩⟩
  · intro path path' joined hp hq hjoined
    obtain rfl : joined = path ++ path' :=
      Option.some.inj (hjoined.symm.trans (ofText?_append hp hq))
    refine ⟨segments_append path path', fun v => ⟨fun hnone => ?_, fun w hw => ?_⟩⟩
    · rw [Json.field?_append, hnone, Option.bind_none]
    · rw [Json.field?_append, hw, Option.bind_some]
  · intro w hw
    exact Json.ne_null_of_lookup hw
  · exact Json.lookup_eq_none_iff_breaksOff

/-- The name of a datacenter, which is absent where a null or a text stands for the datacenter. -/
theorem lookup_composes_datacenter :
    let resource (datacenter : Json) : Json :=
      .obj [("serviceResource", .obj [("datacenter", datacenter)])]
    ∃ path path' joined, ofText? "serviceResource.datacenter" = some path ∧
      ofText? "name" = some path' ∧ ofText? "serviceResource.datacenter.name" = some joined ∧
      joined.segments = ["serviceResource", "datacenter", "name"] ∧
      (resource (.obj [("name", .str "dal09")])).field? joined = some (.str "dal09") ∧
      (resource .null).field? joined = none ∧ (resource (.str "dal09")).field? joined = none := by
  intro resource
  let path : FieldPath := ⟨["serviceResource", "datacenter"], by decide, by decide⟩
  let path' : FieldPath := ⟨["name"], by decide, by decide⟩
  have hpath : ofText? "serviceResource.datacenter" = some path := ofText?_eq_some_iff.mpr rfl
  have hpath' : ofText? "name" = some path' := ofText?_eq_some_iff.mpr rfl
  obtain ⟨hread, hjoins, habsent⟩ := lookup_composes "serviceResource.datacenter" "name"
  obtain ⟨joined, hjoined⟩ := Option.isSome_iff_exists.mp
    (hread.mpr ⟨Option.isSome_of_eq_some hpath, Option.isSome_of_eq_some hpath'⟩)
  obtain ⟨hsegments, hlookup⟩ := hjoins path path' joined hpath hpath' hjoined
  refine ⟨path, path', joined, hpath, hpath', hjoined, hsegments, ?_, ?_, ?_⟩
  · exact (hlookup (resource (.obj [("name", .str "dal09")]))).2 _ rfl
  · exact (hlookup (resource .null)).1 rfl
  · rw [(habsent joined _).2, hsegments]
    refine ⟨path.segments, ["name"], rfl, .inr (.inr ⟨by simp, .str "dal09", ?_, nofun⟩)⟩
    exact .member rfl (.member rfl .here)

end FieldPath

end RecordListing
