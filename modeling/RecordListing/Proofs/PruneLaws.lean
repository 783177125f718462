import Mathlib.Data.List.Basic
import RecordListing.Proofs.Pruning

namespace RecordListing.Json

/-!
# What pruning keeps

A pruned record has what stands at and below the paths of the mask, the objects on the
way to it, and nothing else. Copies commute, since each is a part of one record. So the
order of the paths does not matter, nor how often one is named, and pruning a pruned
record changes nothing.
-/

/-! ## Fields apart from a path -/

theorem putAt_of_not_obj {root : Json} (h : ¬ ∃ members, root = .obj members) (p : List String)
    (v : Json) : putAt p v root = root := by
  cases p with
  | nil => rfl
  | cons key rest =>
      cases root with
      | obj members => exact absurd ⟨members, rfl⟩ h
      | _ => cases rest <;> rfl

theorem lookup_getD_empty {o : Option Json} {p : List String} (hp : p ≠ []) :
    lookup p (o.getD (.obj [])) = o.bind (lookup p) := by
  cases o with
  | some u => rfl
  | none => exact lookup_empty hp

/-- Setting a field leaves every field that is neither above nor below it. -/
theorem lookup_putAt_of_apart {p q : List String} (hpq : ¬ p <+: q) (hqp : ¬ q <+: p)
    (v out : Json) : lookup q (putAt p v out) = lookup q out := by
  induction p generalizing q out with
  | nil => exact absurd List.nil_prefix hpq
  | cons key rest ih =>
      by_cases hobj : ∃ members, out = .obj members
      · obtain ⟨members, rfl⟩ := hobj
        cases q with
        | nil => exact absurd List.nil_prefix hqp
        | cons other more =>
            by_cases hother : key = other
            · subst hother
              have hrest : ¬ rest <+: more := fun h =>
                hpq (List.cons_prefix_cons.mpr ⟨rfl, h⟩)
              have hmore : ¬ more <+: rest := fun h =>
                hqp (List.cons_prefix_cons.mpr ⟨rfl, h⟩)
              have hne : more ≠ [] := by
                rintro rfl
                exact hmore List.nil_prefix
              cases rest with
              | nil => exact absurd List.nil_prefix hrest
              | cons next rest =>
                  rw [putAt_cons_cons, lookup, Keyed.get?_put_self, Option.bind_some,
                    ih hrest hmore, lookup_getD_empty hne, lookup]
            · exact lookup_putAt_of_ne hother rest more v members
      · rw [putAt_of_not_obj hobj]

theorem lookup_copyAt_of_apart {record : Json} {path : FieldPath} {q : List String}
    (h : (record.field? path).isSome → ¬ path.segments <+: q ∧ ¬ q <+: path.segments)
    (out : Json) : lookup q (copyAt record out path) = lookup q out := by
  unfold copyAt
  split
  · rename_i v hv
    obtain ⟨hpq, hqp⟩ := h (Option.isSome_of_eq_some hv)
    exact lookup_putAt_of_apart hpq hqp v out
  · rfl

theorem lookup_prunePaths_of_apart {record : Json} {paths : List FieldPath} {q : List String}
    (h : ∀ path ∈ paths, (record.field? path).isSome →
      ¬ path.segments <+: q ∧ ¬ q <+: path.segments) (hq : q ≠ []) :
    lookup q (record.prunePaths paths) = none := by
  have hkept : ∀ out, lookup q (paths.foldl (copyAt record) out) = lookup q out := by
    induction paths with
    | nil => exact fun out => rfl
    | cons path paths ih =>
        intro out
        rw [List.foldl_cons, ih fun path' hpath' => h path' (List.mem_cons_of_mem path hpath'),
          lookup_copyAt_of_apart (h path List.mem_cons_self)]
  rw [prunePaths, hkept, lookup_empty hq]

/-- What is absent of a pruned record: all that stands neither at or below a path of the
mask nor above one that the record has. -/
theorem lookup_prune_eq_none_iff {record : Json} {mask : Mask} {q : List String} (hq : q ≠ []) :
    lookup q (record.prune mask) = none ↔
      (∀ path ∈ mask.paths, path.segments <+: q → lookup q record = none) ∧
        ∀ path ∈ mask.paths, (record.field? path).isSome → ¬ q <+: path.segments := by
  constructor
  · intro hnone
    constructor
    · intro path hpath hprefix
      rw [← lookup_prune hpath hprefix, hnone]
    · rintro path hpath hpresent ⟨below, hbelow⟩
      have hfield : (record.prune mask).field? path = none := by
        rw [field?, ← hbelow, lookup_append, hnone, Option.bind_none]
      rw [field?_prune hpath] at hfield
      simp [hfield] at hpresent
  · rintro ⟨hbelow, habove⟩
    by_cases hpath : ∃ path ∈ mask.paths, path.segments <+: q
    · obtain ⟨path, hpath, hprefix⟩ := hpath
      rw [lookup_prune hpath hprefix, hbelow path hpath hprefix]
    · apply lookup_prunePaths_of_apart _ hq
      intro path hmem hpresent
      exact ⟨fun hprefix => hpath ⟨path, hmem, hprefix⟩, habove path hmem hpresent⟩

/-! ## The order of the paths -/

/-- A value that was set before is overwritten, and one that is set later is in it. -/
theorem putAt_single_comm {key next : String} {rest : List String} {v w : Json}
    (h : lookup (next :: rest) v = some w) (members : Members) :
    putAt [key] v (putAt (key :: next :: rest) w (.obj members)) =
      putAt (key :: next :: rest) w (putAt [key] v (.obj members)) := by
  have hpresent : lookup (key :: next :: rest) (putAt [key] v (.obj members)) = some w := by
    rw [putAt, lookup, Keyed.get?_put_self, Option.bind_some, h]
  rw [putAt_of_lookup hpresent, putAt_cons_cons, putAt, putAt, Keyed.put_put_self]

theorem putAt_comm {p q : List String} {v w out record : Json} (h : Part out record)
    (hp : lookup p record = some v) (hq : lookup q record = some w) :
    putAt p v (putAt q w out) = putAt q w (putAt p v out) := by
  induction p generalizing q out record with
  | nil => rfl
  | cons key rest ih =>
      obtain ⟨recordMembers, x, rfl, hx, hrest⟩ := lookup_cons_eq_some hp
      obtain ⟨members, rfl, hmembers⟩ := h.of_obj
      cases q with
      | nil => rfl
      | cons other more =>
          obtain ⟨recordMembers', y, hsame, hy, hmore⟩ := lookup_cons_eq_some hq
          cases hsame
          by_cases hother : key = other
          · subst hother
            cases hx.symm.trans hy
            cases rest with
            | nil =>
                cases lookup_nil_eq_some hrest
                cases more with
                | nil =>
                    cases lookup_nil_eq_some hmore
                    rfl
                | cons next more => exact putAt_single_comm hmore members
            | cons next rest =>
                cases more with
                | nil =>
                    cases lookup_nil_eq_some hmore
                    exact (putAt_single_comm hrest members).symm
                | cons next' more =>
                    have hpart := hmembers.part_getD hx hrest
                    simp only [putAt_cons_cons, Keyed.get?_put_self, Option.getD_some,
                      Keyed.put_put_self, ih hpart hrest hmore]
          · obtain ⟨below, hbelow⟩ := putAt_cons_obj key rest v
            obtain ⟨below', hbelow'⟩ := putAt_cons_obj other more w
            rw [hbelow', hbelow, hbelow, hbelow', Keyed.get?_put_of_ne hother,
              Keyed.get?_put_of_ne (Ne.symm hother), Keyed.put_comm hother]

theorem copyAt_comm {record out : Json} (h : Part out record) (path path' : FieldPath) :
    copyAt record (copyAt record out path) path' =
      copyAt record (copyAt record out path') path := by
  unfold copyAt
  cases hfield : record.field? path with
  | none => rfl
  | some v =>
      cases hfield' : record.field? path' with
      | none => rfl
      | some w => exact putAt_comm h hfield' hfield

theorem foldl_copyAt_perm {record out : Json} (h : Part out record) {paths paths' : List FieldPath}
    (hperm : paths.Perm paths') :
    paths.foldl (copyAt record) out = paths'.foldl (copyAt record) out := by
  induction hperm generalizing out with
  | nil => rfl
  | cons path _ ih => exact ih (part_copyAt h path)
  | swap path path' paths => rw [List.foldl_cons, List.foldl_cons, copyAt_comm h]; rfl
  | trans _ _ ih ih' => exact (ih h).trans (ih' h)

theorem foldl_copyAt_of_agree {record out : Json} {paths : List FieldPath}
    (h : ∀ path ∈ paths, out.field? path = record.field? path) :
    paths.foldl (copyAt record) out = out := by
  induction paths with
  | nil => rfl
  | cons path paths ih =>
      have hcopy : copyAt record out path = out := by
        unfold copyAt
        split
        · rename_i v hv
          exact putAt_of_lookup ((h path List.mem_cons_self).trans hv)
        · rfl
      rw [List.foldl_cons, hcopy]
      exact ih fun path' hpath' => h path' (List.mem_cons_of_mem path hpath')

theorem prune_append_of_subset (members : Members) {paths more : List FieldPath}
    (h : ∀ path ∈ more, path ∈ paths) :
    prune (.obj members) ⟨paths ++ more⟩ = prune (.obj members) ⟨paths⟩ := by
  have hagree : ∀ path ∈ more,
      (prune (.obj members) ⟨paths⟩).field? path = field? path (.obj members) := by
    intro path hpath
    have hmem : path ∈ (Mask.mk paths).paths := h path hpath
    exact field?_prune hmem
  unfold prune prunePaths at hagree ⊢
  rw [List.foldl_append, foldl_copyAt_of_agree hagree]

theorem prune_eq_of_mem_iff (record : Json) {mask mask' : Mask}
    (h : ∀ path, path ∈ mask.paths ↔ path ∈ mask'.paths) :
    record.prune mask = record.prune mask' := by
  by_cases hobj : ∃ members, record = .obj members
  · obtain ⟨members, rfl⟩ := hobj
    calc
      prune (.obj members) mask = prune (.obj members) ⟨mask.paths ++ mask'.paths⟩ :=
        (prune_append_of_subset members fun path => (h path).mpr).symm
      _ = prune (.obj members) ⟨mask'.paths ++ mask.paths⟩ :=
        foldl_copyAt_perm (part_empty members) List.perm_append_comm
      _ = prune (.obj members) mask' := prune_append_of_subset members fun path => (h path).mp
  · rw [prune_of_not_obj hobj, prune_of_not_obj hobj]

theorem prune_prune (record : Json) (mask : Mask) :
    (record.prune mask).prune mask = record.prune mask := by
  apply List.foldl_ext
  intro out path hpath
  rw [copyAt, copyAt, field?_prune hpath]

/-! ## Giving up on the way -/

/-- The record with a field set, unless something on the way to it is not an object. -/
def putAt? : List String → Json → Json → Option Json
  | [], _, _ => none
  | [key], v, .obj ms => some (.obj (Keyed.put key v ms))
  | key :: rest, v, .obj ms =>
    (putAt? rest v ((Keyed.get? key ms).getD (.obj []))).map fun u => .obj (Keyed.put key u ms)
  | _ :: _, _, _ => none

theorem putAt?_cons_cons (key next : String) (rest : List String) (v : Json)
    (members : Members) :
    putAt? (key :: next :: rest) v (.obj members) =
      (putAt? (next :: rest) v ((Keyed.get? key members).getD (.obj []))).map
        fun u => .obj (Keyed.put key u members) := by
  simp [putAt?]

theorem putAt?_empty (key : String) (rest : List String) (v : Json) :
    ∃ u, putAt? (key :: rest) v (.obj []) = some u := by
  induction rest generalizing key with
  | nil => exact ⟨_, rfl⟩
  | cons next rest ih =>
      obtain ⟨u, hu⟩ := ih next
      rw [putAt?_cons_cons, Keyed.get?_nil, Option.getD_none, hu]
      exact ⟨_, rfl⟩

/-- A record is left as it is exactly where setting the field is given up. -/
theorem putAt_eq_getD (p : List String) (v root : Json) :
    putAt p v root = (putAt? p v root).getD root := by
  induction p generalizing root with
  | nil => rfl
  | cons key rest ih =>
      by_cases hobj : ∃ members, root = .obj members
      · obtain ⟨members, rfl⟩ := hobj
        cases rest with
        | nil => rfl
        | cons next rest =>
            rw [putAt_cons_cons, putAt?_cons_cons, ih]
            cases hu : putAt? (next :: rest) v ((Keyed.get? key members).getD (.obj [])) with
            | some u => rfl
            | none =>
                -- It is given up below a member that is there, which is put back.
                cases hget : Keyed.get? key members with
                | none =>
                    obtain ⟨u, hempty⟩ := putAt?_empty next rest v
                    rw [hget, Option.getD_none, hempty] at hu
                    cases hu
                | some w =>
                    rw [Option.getD_some, Option.getD_none, Keyed.put_of_get? hget]
                    rfl
      · rw [putAt_of_not_obj hobj]
        cases root with
        | obj members => exact absurd ⟨members, rfl⟩ hobj
        | _ => cases rest <;> rfl

/-- On the way to a value of the record nothing stands in a part of it but objects. -/
theorem putAt?_isSome_of_part {p : List String} {v out record : Json} (hp : p ≠ [])
    (h : Part out record) (hv : lookup p record = some v) : (putAt? p v out).isSome := by
  induction p generalizing out record with
  | nil => exact absurd rfl hp
  | cons key rest ih =>
      obtain ⟨recordMembers, w, rfl, hw, hrest⟩ := lookup_cons_eq_some hv
      obtain ⟨members, rfl, hmembers⟩ := h.of_obj
      cases rest with
      | nil => rfl
      | cons next rest =>
          rw [putAt?_cons_cons, Option.isSome_map]
          exact ih (List.cons_ne_nil next rest) (hmembers.part_getD hw hrest) hrest

theorem putAt?_prunePaths {record v : Json} {path : FieldPath} (hv : record.field? path = some v)
    (before : List FieldPath) :
    putAt? path.segments v (record.prunePaths before) =
      some (record.prunePaths (before ++ [path])) := by
  obtain ⟨members, rfl⟩ : ∃ members, record = .obj members := by
    by_contra hobj
    have hnone : record.field? path = none := lookup_of_not_obj hobj path.segments_ne_nil
    simp [hnone] at hv
  have hpart : Part (prunePaths (.obj members) before) (.obj members) :=
    part_foldl_copyAt (part_empty members) before
  obtain ⟨u, hu⟩ :=
    Option.isSome_iff_exists.mp (putAt?_isSome_of_part path.segments_ne_nil hpart hv)
  have hput : putAt path.segments v (prunePaths (.obj members) before) = u := by
    rw [putAt_eq_getD, hu, Option.getD_some]
  rw [hu, ← hput]
  simp only [prunePaths, List.foldl_append, List.foldl_cons, List.foldl_nil, copyAt, hv]

/-- A pruned record has at and below the paths of the mask what the record has, and beyond
these only the objects above a path that the record has. It depends on the set of the
paths only, is what it is pruned to, and no field that the record has is given up. -/
theorem prune_keeps_masked (record : Json) (mask : Mask) :
    (∀ path ∈ mask.paths, ∀ q, path.segments <+: q →
      lookup q (record.prune mask) = lookup q record) ∧
    (∀ q, q ≠ [] → (lookup q (record.prune mask) = none ↔
      (∀ path ∈ mask.paths, path.segments <+: q → lookup q record = none) ∧
        ∀ path ∈ mask.paths, (record.field? path).isSome → ¬ q <+: path.segments)) ∧
    (∀ mask' : Mask, (∀ path, path ∈ mask.paths ↔ path ∈ mask'.paths) →
      record.prune mask = record.prune mask') ∧
    (record.prune mask).prune mask = record.prune mask ∧
    ∀ before path v, record.field? path = some v →
      putAt? path.segments v (record.prunePaths before) =
        some (record.prunePaths (before ++ [path])) := by
  refine ⟨?_, ?_, ?_, prune_prune record mask, ?_⟩
  · intro path hpath q hq
    exact lookup_prune hpath hq
  · intro q hq
    exact lookup_prune_eq_none_iff hq
  · intro mask' h
    exact prune_eq_of_mem_iff record h
  · intro before path v hv
    exact putAt?_prunePaths hv before

/-- A path and one above it, with a null and a field that no path names beside them. -/
theorem prune_keeps_masked_above :
    let record : Json := .obj [
      ("size", .obj [("unit", .str "GB"), ("used", .null)]), ("notes", .str "keep out")]
    let size : FieldPath := ⟨["size"], by decide, by decide⟩
    let unit : FieldPath := ⟨["size", "unit"], by decide, by decide⟩
    lookup ["size", "unit"] (record.prune ⟨[unit, size]⟩) = some (.str "GB") ∧
      lookup ["notes"] (record.prune ⟨[unit, size]⟩) = none ∧
      record.prune ⟨[unit, size]⟩ = record.prune ⟨[size, unit, size]⟩ ∧
      putAt? ["size"] (.obj [("unit", .str "GB"), ("used", .null)]) (record.prunePaths [unit]) =
        some (record.prunePaths [unit, size]) := by
  intro record size unit
  obtain ⟨hkept, habsent, hset, -, hreached⟩ := prune_keeps_masked record ⟨[unit, size]⟩
  refine ⟨?_, ?_, ?_, hreached [unit] size _ rfl⟩
  · exact hkept unit List.mem_cons_self _ (List.prefix_refl _)
  · refine (habsent ["notes"] (by decide)).mpr ⟨?_, ?_⟩ <;> simp [size, unit]
  · apply hset
    intro path
    simp only [List.mem_cons, List.not_mem_nil, or_false]
    tauto

end RecordListing.Json
