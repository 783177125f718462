import RecordListing.Prune

namespace RecordListing.Json

/-!
# Fields of pruned records

Pruning goes through the paths of a mask and copies one field after the other. What
it has copied so far is a part of the record at every step, so that a later field
never destroys an earlier one, also where one path goes on from another.
-/

/-- A record of which members have been left out, at any depth. -/
inductive Part : Json → Json → Prop
  | whole (v : Json) : Part v v
  | members {out record : Members}
      (hkeys : ∀ key w, Keyed.get? key out = some w → (Keyed.get? key record).isSome)
      (hparts : ∀ key w v,
        Keyed.get? key out = some w → Keyed.get? key record = some v → Part w v) :
      Part (.obj out) (.obj record)

/-- Every member is a part of the one with its key. -/
def PartsOf (members record : Members) : Prop :=
  ∀ key w, Keyed.get? key members = some w → ∃ v, Keyed.get? key record = some v ∧ Part w v

theorem Part.of_obj {out : Json} {record : Members} (h : Part out (.obj record)) :
    ∃ members, out = .obj members ∧ PartsOf members record := by
  cases h with
  | whole =>
      refine ⟨record, rfl, ?_⟩
      intro key w hw
      exact ⟨w, hw, .whole w⟩
  | members hkeys hparts =>
      refine ⟨_, rfl, ?_⟩
      intro key w hw
      obtain ⟨v, hv⟩ := Option.isSome_iff_exists.mp (hkeys key w hw)
      exact ⟨v, hv, hparts key w v hw hv⟩

theorem PartsOf.part {members record : Members} (h : PartsOf members record) :
    Part (.obj members) (.obj record) := by
  apply Part.members
  · intro key w hw
    obtain ⟨v, hv, -⟩ := h key w hw
    exact Option.isSome_of_eq_some hv
  · intro key w v hw hv
    obtain ⟨v', hv', hpart⟩ := h key w hw
    cases hv'.symm.trans hv
    exact hpart

theorem part_empty (record : Members) : Part (.obj []) (.obj record) := by
  apply PartsOf.part
  intro key w hw
  cases hw

theorem lookup_cons_eq_some {key : String} {rest : List String} {record v : Json}
    (h : lookup (key :: rest) record = some v) :
    ∃ members w, record = .obj members ∧ Keyed.get? key members = some w ∧
      lookup rest w = some v := by
  cases record with
  | obj members =>
      obtain ⟨w, hw, hv⟩ := Option.bind_eq_some_iff.mp h
      exact ⟨members, w, rfl, hw, hv⟩
  | _ => cases h

theorem lookup_nil_eq_some {v w : Json} (h : lookup [] v = some w) : v = w := by
  cases v <;> simp_all [lookup]

theorem lookup_empty {p : List String} (hp : p ≠ []) : lookup p (.obj []) = none := by
  cases p with
  | nil => exact absurd rfl hp
  | cons key rest => rfl

theorem Part.lookup_eq_none {out record : Json} (h : Part out record) {p : List String}
    (hp : lookup p record = none) : lookup p out = none := by
  induction p generalizing out record with
  | nil =>
      cases h with
      | whole => exact hp
      | members => cases hp
  | cons key rest ih =>
      cases record with
      | obj members =>
          obtain ⟨members', rfl, hmembers⟩ := h.of_obj
          cases hw : Keyed.get? key members' with
          | none => simp [lookup, hw]
          | some w =>
              obtain ⟨v, hv, hpart⟩ := hmembers key w hw
              have hrest : lookup rest v = none := by simpa [lookup, hv] using hp
              simpa [lookup, hw] using ih hpart hrest
      | _ =>
          cases h
          exact hp

/-! ## One field -/

theorem putAt_cons_cons (key next : String) (rest : List String) (v : Json) (members : Members) :
    putAt (key :: next :: rest) v (.obj members) =
      .obj (Keyed.put key (putAt (next :: rest) v ((Keyed.get? key members).getD (.obj [])))
        members) := by
  simp [putAt]

theorem putAt_of_lookup {p : List String} {v record : Json} (h : lookup p record = some v) :
    putAt p v record = record := by
  induction p generalizing record with
  | nil => rfl
  | cons key rest ih =>
      obtain ⟨members, w, rfl, hw, hv⟩ := lookup_cons_eq_some h
      cases rest with
      | nil =>
          cases lookup_nil_eq_some hv
          rw [putAt, Keyed.put_of_get? hw]
      | cons next rest =>
          rw [putAt_cons_cons, hw, Option.getD_some, ih hv, Keyed.put_of_get? hw]

/-- The object to go on with on the way to a value of the record, made if missing. -/
theorem PartsOf.part_getD {members record : Members} (h : PartsOf members record) {key : String}
    {w : Json} (hw : Keyed.get? key record = some w) {next : String} {rest : List String} {v : Json}
    (hv : lookup (next :: rest) w = some v) :
    Part ((Keyed.get? key members).getD (.obj [])) w := by
  cases hget : Keyed.get? key members with
  | none =>
      obtain ⟨inner, -, rfl, -, -⟩ := lookup_cons_eq_some hv
      exact part_empty inner
  | some u =>
      obtain ⟨w', hw', hpart⟩ := h key u hget
      cases hw'.symm.trans hw
      exact hpart

theorem PartsOf.put {members record : Members} (h : PartsOf members record) {key : String}
    {u w : Json} (hw : Keyed.get? key record = some w) (hu : Part u w) :
    PartsOf (Keyed.put key u members) record := by
  intro other x hx
  by_cases hother : key = other
  · subst hother
    rw [Keyed.get?_put_self, Option.some.injEq] at hx
    exact ⟨w, hw, hx ▸ hu⟩
  · rw [Keyed.get?_put_of_ne hother] at hx
    exact h other x hx

/-- Copying a value of the record keeps a part a part. -/
theorem part_putAt {p : List String} {v out record : Json} (h : Part out record)
    (hv : lookup p record = some v) : Part (putAt p v out) record := by
  induction p generalizing out record with
  | nil => exact h
  | cons key rest ih =>
      obtain ⟨recordMembers, w, rfl, hw, hrest⟩ := lookup_cons_eq_some hv
      obtain ⟨members, rfl, hmembers⟩ := h.of_obj
      cases rest with
      | nil =>
          cases lookup_nil_eq_some hrest
          exact (hmembers.put hw (.whole _)).part
      | cons next rest =>
          rw [putAt_cons_cons]
          exact (hmembers.put hw (ih (hmembers.part_getD hw hrest) hrest)).part

/-- A member is set to something that depends on what it was, and on no other member. -/
theorem putAt_cons_obj (key : String) (rest : List String) (v : Json) :
    ∃ below : Option Json → Json, ∀ members : Members,
      putAt (key :: rest) v (.obj members) =
        .obj (Keyed.put key (below (Keyed.get? key members)) members) := by
  cases rest with
  | nil => exact ⟨fun _ => v, fun _ => rfl⟩
  | cons next rest =>
      refine ⟨fun u => putAt (next :: rest) v (u.getD (.obj [])), ?_⟩
      intro members
      exact putAt_cons_cons key next rest v members

theorem lookup_putAt_of_ne {key other : String} (h : key ≠ other) (rest more : List String)
    (v : Json) (members : Members) :
    lookup (other :: more) (putAt (key :: rest) v (.obj members)) =
      lookup (other :: more) (.obj members) := by
  obtain ⟨below, hbelow⟩ := putAt_cons_obj key rest v
  rw [hbelow, lookup, lookup, Keyed.get?_put_of_ne h]

/-- Once a value of the record is copied, everything at and below its path is as in the
record, and so is whatever was so before. -/
theorem lookup_putAt {p q : List String} {v out record : Json} (hp : p ≠ [])
    (h : Part out record) (hv : lookup p record = some v)
    (hq : p <+: q ∨ lookup q out = lookup q record) :
    lookup q (putAt p v out) = lookup q record := by
  induction p generalizing q out record with
  | nil => exact absurd rfl hp
  | cons key rest ih =>
      obtain ⟨recordMembers, w, rfl, hw, hrest⟩ := lookup_cons_eq_some hv
      obtain ⟨members, rfl, hmembers⟩ := h.of_obj
      cases q with
      | nil =>
          -- The whole was as in the record, so there is nothing left to copy.
          have hsame : Json.obj members = .obj recordMembers := by
            rcases hq with hprefix | hsame
            · simp at hprefix
            · simpa [lookup] using hsame
          rw [hsame, putAt_of_lookup hv]
      | cons other more =>
          by_cases hother : key = other
          · subst hother
            cases rest with
            | nil =>
                cases lookup_nil_eq_some hrest
                simp [putAt, lookup, hw]
            | cons next rest =>
                have hpart := hmembers.part_getD hw hrest
                have hmore : next :: rest <+: more ∨
                    lookup more ((Keyed.get? key members).getD (.obj [])) = lookup more w := by
                  rcases hq with hprefix | hsame
                  · exact .inl (List.cons_prefix_cons.mp hprefix).2
                  · right
                    cases hget : Keyed.get? key members with
                    | some u => simpa [lookup, hget, hw] using hsame
                    | none =>
                        have hnone : lookup more w = none := by
                          simpa [lookup, hget, hw] using hsame.symm
                        rw [hget] at hpart
                        exact (hpart.lookup_eq_none hnone).trans hnone.symm
                rw [putAt_cons_cons]
                simpa [lookup, hw] using ih (List.cons_ne_nil next rest) hpart hrest hmore
          · have hsame : lookup (other :: more) (.obj members) =
                lookup (other :: more) (.obj recordMembers) := by
              rcases hq with hprefix | hsame
              · exact absurd (List.cons_prefix_cons.mp hprefix).1 hother
              · exact hsame
            rw [lookup_putAt_of_ne hother, hsame]

/-! ## All fields of a mask -/

theorem part_copyAt {record out : Json} (h : Part out record) (path : FieldPath) :
    Part (copyAt record out path) record := by
  unfold copyAt
  split
  · rename_i v hv
    exact part_putAt h hv
  · exact h

theorem lookup_copyAt {record out : Json} (h : Part out record) {path : FieldPath}
    {q : List String} (hq : path.segments <+: q ∨ lookup q out = lookup q record) :
    lookup q (copyAt record out path) = lookup q record := by
  unfold copyAt
  split
  · rename_i v hv
    exact lookup_putAt path.segments_ne_nil h hv hq
  · rename_i hnone
    rcases hq with ⟨below, rfl⟩ | hsame
    · have hrecord : lookup (path.segments ++ below) record = none := by
        rw [lookup_append, show lookup path.segments record = none from hnone, Option.bind_none]
      exact (h.lookup_eq_none hrecord).trans hrecord.symm
    · exact hsame

theorem part_foldl_copyAt {record out : Json} (h : Part out record) (paths : List FieldPath) :
    Part (paths.foldl (copyAt record) out) record := by
  induction paths generalizing out with
  | nil => exact h
  | cons path paths ih => exact ih (part_copyAt h path)

theorem lookup_foldl_copyAt {record out : Json} (h : Part out record) {paths : List FieldPath}
    {q : List String}
    (hq : (∃ path ∈ paths, path.segments <+: q) ∨ lookup q out = lookup q record) :
    lookup q (paths.foldl (copyAt record) out) = lookup q record := by
  induction paths generalizing out with
  | nil =>
      rcases hq with ⟨path, hpath, -⟩ | hsame
      · cases hpath
      · exact hsame
  | cons path paths ih =>
      apply ih (part_copyAt h path)
      by_cases hlater : ∃ path ∈ paths, path.segments <+: q
      · exact .inl hlater
      · right
        apply lookup_copyAt h
        rcases hq with ⟨path', hpath', hprefix⟩ | hsame
        · rcases List.mem_cons.mp hpath' with rfl | hpath'
          · exact .inl hprefix
          · exact absurd ⟨path', hpath', hprefix⟩ hlater
        · exact .inr hsame

theorem lookup_of_not_obj {record : Json} (h : ¬ ∃ members, record = .obj members)
    {p : List String} (hp : p ≠ []) : lookup p record = none := by
  cases p with
  | nil => exact absurd rfl hp
  | cons key rest =>
      cases record with
      | obj members => exact absurd ⟨members, rfl⟩ h
      | _ => rfl

theorem prune_of_not_obj {record : Json} (h : ¬ ∃ members, record = .obj members) (mask : Mask) :
    record.prune mask = .obj [] := by
  have hcopy : ∀ path : FieldPath, copyAt record (.obj []) path = .obj [] := by
    intro path
    have hfield : record.field? path = none := lookup_of_not_obj h path.segments_ne_nil
    rw [copyAt, hfield]
  unfold prune prunePaths
  induction mask.paths with
  | nil => rfl
  | cons path paths ih => rw [List.foldl_cons, hcopy, ih]

/-- A pruned record has at and below the paths of the mask what the record has. -/
theorem lookup_prune {record : Json} {mask : Mask} {path : FieldPath} (h : path ∈ mask.paths)
    {q : List String} (hq : path.segments <+: q) :
    lookup q (record.prune mask) = lookup q record := by
  by_cases hobj : ∃ members, record = .obj members
  · obtain ⟨members, rfl⟩ := hobj
    exact lookup_foldl_copyAt (part_empty members) (.inl ⟨path, h, hq⟩)
  · have hnil : q ≠ [] := by
      rintro rfl
      exact path.segments_ne_nil (List.prefix_nil.mp hq)
    rw [prune_of_not_obj hobj, lookup_of_not_obj hobj hnil, lookup_empty hnil]

theorem field?_prune {record : Json} {mask : Mask} {path : FieldPath} (h : path ∈ mask.paths) :
    (record.prune mask).field? path = record.field? path :=
  lookup_prune h (List.prefix_refl path.segments)

end RecordListing.Json
