import RecordListing.Proofs.SettingLayers

namespace RecordListing

/-!
# Trees as lists of leaves

A tree put over another one writes its leaves one after the other, each at its own path.
What then stands at a path follows from the leaves alone: those at the path and below it,
and those above it that are no tables.
-/

namespace Setting

/-- What stands where the keys lead. -/
def at? : List String → Setting → Option Setting
  | [], v => some v
  | key :: path, v => (Keyed.get? key v.entries).bind (at? path)

def isTable : Setting → Bool
  | .table _ _ => true
  | _ => false

abbrev Leaf := List String × Setting

def Leaf.under (names : List String) (leaf : Leaf) : Leaf := (names ++ leaf.1, leaf.2)

mutual

/-- The parts of a tree that have no entries of their own, with the keys that lead to them. -/
def leaves : Setting → List Leaf
  | .table _ [] => [([], empty)]
  | .table _ (e :: es) => entryLeaves (e :: es)
  | v => [([], v)]

def entryLeaves : List (String × Setting) → List Leaf
  | [] => []
  | (key, v) :: rest => (leaves v).map (Leaf.under [Text.lower key]) ++ entryLeaves rest

end

/-- Writes a value at a path. A table without entries only replaces what is missing. -/
def setAt (v : Setting) : List String → Option Setting → Setting
  | [], old => if v.isTable then old.getD empty else v
  | key :: path, old =>
    (old.getD empty).withEntry key (setAt v path (Keyed.get? key (old.getD empty).entries))

def setAll (leaves : List Leaf) (old : Option Setting) : Option Setting :=
  leaves.foldl (fun old leaf => some (setAt leaf.2 leaf.1 old)) old

@[simp] theorem setAll_nil (old : Option Setting) : setAll [] old = old := rfl

@[simp] theorem setAll_cons (leaf : Leaf) (rest : List Leaf) (old : Option Setting) :
    setAll (leaf :: rest) old = setAll rest (some (setAt leaf.2 leaf.1 old)) := rfl

theorem setAll_append (before after : List Leaf) (old : Option Setting) :
    setAll (before ++ after) old = setAll after (setAll before old) :=
  List.foldl_append

@[simp] theorem entries_withEntry (root : Setting) (key : String) (v : Setting) :
    (root.withEntry key v).entries = Keyed.put key v root.entries := rfl

theorem withEntry_withEntry (root : Setting) (key : String) (old new : Setting) :
    (root.withEntry key old).withEntry key new = root.withEntry key new := by
  rw [withEntry, withEntry, withEntry, entries, tableOrigin, Keyed.put_put_self]

theorem leaves_of_not_table {v : Setting} (h : v.isTable = false) : leaves v = [([], v)] := by
  cases v with
  | scalar origin w => rfl
  | list origin items => rfl
  | table origin es => cases h

theorem leaves_ne_nil : ∀ v : Setting, leaves v ≠ []
  | .table _ [] => by simp [leaves]
  | .table _ ((key, v) :: es) => by simp [leaves, entryLeaves, leaves_ne_nil v]
  | .scalar _ _ => by simp [leaves]
  | .list _ _ => by simp [leaves]

theorem exists_cons_of_mem_entryLeaves {es : List (String × Setting)} {leaf : Leaf}
    (h : leaf ∈ entryLeaves es) : ∃ key path, leaf.1 = key :: path := by
  induction es with
  | nil => simp [entryLeaves] at h
  | cons e es ih =>
      obtain ⟨key, v⟩ := e
      rw [entryLeaves, List.mem_append] at h
      rcases h with hfirst | hrest
      · obtain ⟨leaf', -, rfl⟩ := List.mem_map.mp hfirst
        exact ⟨Text.lower key, leaf'.1, rfl⟩
      · exact ih hrest

/-! ## A tree writes its leaves -/

/-- Leaves below one key are written into the entry with that key. -/
theorem setAll_below {all : List Leaf} (h : all ≠ []) (key : String) (root : Setting) :
    setAll (all.map (Leaf.under [key])) (some root) =
      (setAll all (Keyed.get? key root.entries)).map (root.withEntry key) := by
  induction all generalizing root with
  | nil => exact absurd rfl h
  | cons leaf rest ih =>
      have hstep : setAt leaf.2 ([key] ++ leaf.1) (some root) =
          root.withEntry key (setAt leaf.2 leaf.1 (Keyed.get? key root.entries)) := rfl
      rw [List.map_cons, setAll_cons, setAll_cons, Leaf.under, hstep]
      cases rest with
      | nil => rfl
      | cons next rest =>
          rw [ih (List.cons_ne_nil _ _), entries_withEntry, Keyed.get?_put_self]
          exact congrArg (Option.map · _) (funext (withEntry_withEntry root key _))

/-- Where every leaf has a key, writing into nothing is writing into an empty table. -/
theorem setAll_none {all : List Leaf} (hall : all ≠ []) (hkeys : ∀ leaf ∈ all, leaf.1 ≠ []) :
    setAll all none = setAll all (some empty) := by
  obtain ⟨⟨path, v⟩, rest, rfl⟩ := List.exists_cons_of_ne_nil hall
  cases path with
  | nil => exact absurd rfl (hkeys _ List.mem_cons_self)
  | cons key path => rfl

theorem setAll_getD {all : List Leaf} (hall : all ≠ []) (hkeys : ∀ leaf ∈ all, leaf.1 ≠ [])
    (old : Option Setting) : setAll all (some (old.getD empty)) = setAll all old := by
  cases old with
  | none => exact (setAll_none hall hkeys).symm
  | some v => rfl

mutual

theorem setAll_leaves_put (key : String) :
    ∀ v root : Setting,
      setAll ((leaves v).map (Leaf.under [Text.lower key])) (some root) = some (put key v root)
  | .scalar _ _, _ => rfl
  | .list _ _, _ => rfl
  | .table _ [], _ => rfl
  | .table origin (e :: es), root => by
      have hkeys : ∀ leaf ∈ entryLeaves (e :: es), leaf.1 ≠ [] := by
        intro leaf hleaf
        obtain ⟨key, path, hpath⟩ := exists_cons_of_mem_entryLeaves hleaf
        simp [hpath]
      have hall : entryLeaves (e :: es) ≠ [] := leaves_ne_nil (.table origin (e :: es))
      rw [leaves, setAll_below hall, ← setAll_getD hall hkeys, setAll_entryLeaves, put]
      rfl

theorem setAll_entryLeaves :
    ∀ (es : List (String × Setting)) (root : Setting),
      setAll (entryLeaves es) (some root) = some (merge es root)
  | [], _ => rfl
  | (key, v) :: rest, root => by
      rw [entryLeaves, setAll_append, setAll_leaves_put, setAll_entryLeaves, merge]

end

theorem setAll_leaves_assign (v : Setting) (first : String) (names : List String)
    (root : Setting) :
    setAll ((leaves v).map (Leaf.under ((first :: names).map Text.lower))) (some root) =
      some (assign v (first :: names) root) := by
  induction names generalizing first root with
  | nil => exact setAll_leaves_put first v root
  | cons next names ih =>
      have hbelow : (leaves v).map (Leaf.under ((first :: next :: names).map Text.lower)) =
          ((leaves v).map (Leaf.under ((next :: names).map Text.lower))).map
            (Leaf.under [Text.lower first]) := by
        rw [List.map_map]
        rfl
      have hall : (leaves v).map (Leaf.under ((next :: names).map Text.lower)) ≠ [] := by
        simp [leaves_ne_nil]
      have hkeys : ∀ leaf ∈ (leaves v).map (Leaf.under ((next :: names).map Text.lower)),
          leaf.1 ≠ [] := by
        intro leaf hleaf
        obtain ⟨leaf', -, rfl⟩ := List.mem_map.mp hleaf
        simp [Leaf.under]
      rw [hbelow, setAll_below hall, ← setAll_getD hall hkeys, ih, assign_cons, Option.map_some]
      cases Keyed.get? (Text.lower first) root.entries with
      | none => rw [Option.getD_none, Option.getD_none, assign_empty]
      | some sub => rfl

/-! ## What stands at a path -/

theorem at?_single (key : String) (v : Setting) : at? [key] v = Keyed.get? key v.entries := by
  simp [at?]

theorem bind_at?_cons (key : String) (path : List String) (old : Option Setting) :
    old.bind (at? (key :: path)) =
      (Keyed.get? key (old.getD empty).entries).bind (at? path) := by
  cases old <;> rfl

theorem at?_append (path rest : List String) (v : Setting) :
    at? (path ++ rest) v = (at? path v).bind (at? rest) := by
  induction path generalizing v with
  | nil => rfl
  | cons key path ih =>
      rw [List.cons_append, at?, at?, Option.bind_assoc]
      exact congrArg _ (funext ih)

/-- At the start of the path stands what was there, with the value written into it. -/
theorem at?_setAt_append (v : Setting) (path rest : List String) (old : Option Setting) :
    at? path (setAt v (path ++ rest) old) = some (setAt v rest (old.bind (at? path))) := by
  induction path generalizing old with
  | nil =>
      rw [List.nil_append, at?]
      cases old <;> rfl
  | cons key path ih =>
      rw [List.cons_append, setAt, at?, entries_withEntry, Keyed.get?_put_self, bind_at?_cons]
      exact ih _

theorem at?_setAt_self (v : Setting) (path : List String) (old : Option Setting) :
    at? path (setAt v path old) =
      some (if v.isTable then (old.bind (at? path)).getD empty else v) := by
  have h := at?_setAt_append v path [] old
  rwa [List.append_nil, setAt] at h

theorem at?_setAt_of_apart {path other : List String} (h : ¬ path <+: other)
    (h' : ¬ other <+: path) (v : Setting) (old : Option Setting) :
    at? path (setAt v other old) = old.bind (at? path) := by
  induction path generalizing other old with
  | nil => exact absurd (List.nil_prefix) h
  | cons key path ih =>
      cases other with
      | nil => exact absurd (List.nil_prefix) h'
      | cons key' other =>
          rw [setAt, at?, entries_withEntry, bind_at?_cons]
          by_cases hkey : key = key'
          · subst hkey
            rw [List.prefix_cons_inj] at h h'
            rw [Keyed.get?_put_self]
            exact ih h h' _
          · rw [Keyed.get?_put_of_ne (Ne.symm hkey)]

/-- A table without entries changes nothing below it. -/
theorem at?_setAt_of_isTable {v : Setting} (hv : v.isTable) (path : List String) (key : String)
    (rest : List String) (old : Option Setting) :
    at? (path ++ key :: rest) (setAt v path old) = old.bind (at? (path ++ key :: rest)) := by
  rw [at?_append, at?_setAt_self, if_pos hv]
  cases old with
  | none => cases path <;> rfl
  | some root =>
      rw [Option.bind_some, Option.bind_some, Option.bind_some, at?_append]
      cases at? path root with
      | none => rfl
      | some w => rfl

theorem at?_setAt_of_not_below {path other : List String} (h : ¬ path <+: other) {v : Setting}
    (htable : other <+: path → v.isTable) (old : Option Setting) :
    at? path (setAt v other old) = old.bind (at? path) := by
  by_cases habove : other <+: path
  · obtain ⟨rest, rfl⟩ := habove
    cases rest with
    | nil => simp at h
    | cons key rest =>
        exact at?_setAt_of_isTable (htable (List.prefix_append _ _)) other key rest old
  · exact at?_setAt_of_apart h habove v old

/-! ## What a list of leaves does to a path -/

/-- A leaf that leaves a path alone: it stands elsewhere, or is a table that the path leads
through or to. -/
def Leaf.Spares (path : List String) (leaf : Leaf) : Prop :=
  (¬ path <+: leaf.1 ∧ ¬ leaf.1 <+: path) ∨ (leaf.2.isTable ∧ leaf.1 <+: path)

/-- One of the leaves is no table and stands at the other or above it. -/
def Leaf.Clashes (a b : Leaf) : Prop :=
  (a.1 <+: b.1 ∧ a.2.isTable = false) ∨ (b.1 <+: a.1 ∧ b.2.isTable = false)

/-- Leaves that spare a path change nothing there but the absence of a table. -/
theorem setAll_spares {all : List Leaf} {path : List String}
    (h : ∀ leaf ∈ all, leaf.Spares path) (old : Option Setting) :
    (setAll all old).bind (at? path) = old.bind (at? path) ∨
      (old.bind (at? path) = none ∧ (setAll all old).bind (at? path) = some empty) := by
  induction all generalizing old with
  | nil => exact .inl rfl
  | cons leaf rest ih =>
      rw [List.forall_mem_cons] at h
      have hstep : at? path (setAt leaf.2 leaf.1 old) = old.bind (at? path) ∨
          (old.bind (at? path) = none ∧ at? path (setAt leaf.2 leaf.1 old) = some empty) := by
        rcases h.1 with ⟨hpath, hleaf⟩ | ⟨htable, rest', rfl⟩
        · exact .inl (at?_setAt_of_apart hpath hleaf _ _)
        · cases rest' with
          | nil =>
              rw [List.append_nil, at?_setAt_self, if_pos htable]
              cases old.bind (at? leaf.1) with
              | none => exact .inr ⟨rfl, rfl⟩
              | some w => exact .inl rfl
          | cons key rest' => exact .inl (at?_setAt_of_isTable htable _ _ _ _)
      rw [setAll_cons]
      rcases ih h.2 (some (setAt leaf.2 leaf.1 old)) with heq | ⟨hnone, hempty⟩
      · rw [heq, Option.bind_some]
        exact hstep
      · rw [Option.bind_some] at hnone
        rcases hstep with hsame | ⟨-, hsome⟩
        · exact .inr ⟨hsame.symm.trans hnone, hempty⟩
        · rw [hnone] at hsome
          cases hsome

theorem setAll_spares_of_some {all : List Leaf} {path : List String}
    (h : ∀ leaf ∈ all, leaf.Spares path) {old : Option Setting} {v : Setting}
    (hold : old.bind (at? path) = some v) : (setAll all old).bind (at? path) = some v := by
  rcases setAll_spares h old with heq | ⟨hnone, -⟩
  · rw [heq, hold]
  · rw [hold] at hnone
    cases hnone

/-- The leaves behind a given one do not clash with it. -/
theorem exists_split_of_mem {all : List Leaf} (hclash : all.Pairwise fun a b => ¬ a.Clashes b)
    {leaf : Leaf} (h : leaf ∈ all) :
    ∃ before after, all = before ++ leaf :: after ∧ ∀ other ∈ after, ¬ leaf.Clashes other := by
  obtain ⟨before, after, rfl⟩ := List.append_of_mem h
  have hafter := (List.pairwise_append.mp hclash).2.1
  exact ⟨before, after, rfl, (List.pairwise_cons.mp hafter).1⟩

/-- A value among leaves without clashes is what stands at its path in the end. -/
theorem setAll_value {all : List Leaf} (hclash : all.Pairwise fun a b => ¬ a.Clashes b)
    {path : List String} {v : Setting} (hmem : (path, v) ∈ all) (hv : v.isTable = false)
    (old : Option Setting) : (setAll all old).bind (at? path) = some v := by
  obtain ⟨before, after, rfl, hafter⟩ := exists_split_of_mem hclash hmem
  have hspares : ∀ leaf ∈ after, leaf.Spares path := by
    intro leaf hleaf
    have hnot := hafter leaf hleaf
    rw [Leaf.Clashes, not_or] at hnot
    have hbelow : ¬ path <+: leaf.1 := fun h => hnot.1 ⟨h, hv⟩
    by_cases habove : leaf.1 <+: path
    · right
      refine ⟨?_, habove⟩
      by_contra htable
      exact hnot.2 ⟨habove, by simpa using htable⟩
    · exact .inl ⟨hbelow, habove⟩
  have hself : (some (setAt v path (setAll before old))).bind (at? path) = some v := by
    rw [Option.bind_some, at?_setAt_self, hv]
    rfl
  rw [setAll_append, setAll_cons]
  exact setAll_spares_of_some hspares hself

/-- Below a path where a leaf stands something is left in the end. -/
theorem setAll_ne_none {all : List Leaf} (hclash : all.Pairwise fun a b => ¬ a.Clashes b)
    {path rest : List String} {v : Setting} (hmem : (path ++ rest, v) ∈ all)
    (old : Option Setting) : (setAll all old).bind (at? path) ≠ none := by
  obtain ⟨before, after, rfl, hafter⟩ := exists_split_of_mem hclash hmem
  rw [setAll_append, setAll_cons]
  have hself : (some (setAt v (path ++ rest) (setAll before old))).bind (at? path) ≠ none := by
    rw [Option.bind_some, at?_setAt_append]
    exact Option.some_ne_none _
  -- No leaf behind replaces what the path leads through.
  generalize some (setAt v (path ++ rest) (setAll before old)) = root at hself ⊢
  clear hmem hclash
  induction after generalizing root with
  | nil => exact hself
  | cons leaf after ih =>
      rw [List.forall_mem_cons] at hafter
      refine ih hafter.2 _ ?_
      rw [Option.bind_some]
      by_cases hbelow : path <+: leaf.1
      · obtain ⟨rest', hleaf⟩ := hbelow
        rw [← hleaf, at?_setAt_append]
        exact Option.some_ne_none _
      · have htable : leaf.1 <+: path → leaf.2.isTable := by
          intro habove
          by_contra hvalue
          have hclash := habove.trans (List.prefix_append path rest)
          exact hafter.1 (.inr ⟨hclash, by simpa using hvalue⟩)
        rwa [at?_setAt_of_not_below hbelow htable]

/-! ## Tables stay tables -/

/-- A table in which every key stands once. -/
def IsRecord (v : Setting) : Prop :=
  v.isTable ∧ (v.entries.map (·.1)).Nodup

theorem isRecord_empty : IsRecord empty := ⟨rfl, List.nodup_nil⟩

theorem IsRecord.withEntry {v : Setting} (h : IsRecord v) (key : String) (w : Setting) :
    IsRecord (v.withEntry key w) :=
  ⟨rfl, Keyed.nodup_put key w h.2⟩

theorem IsRecord.exists_eq {v : Setting} (h : IsRecord v) :
    ∃ origin es, v = .table origin es ∧ (es.map (·.1)).Nodup := by
  obtain ⟨htable, hnodup⟩ := h
  cases v with
  | scalar origin w => cases htable
  | list origin items => cases htable
  | table origin es => exact ⟨origin, es, rfl, hnodup⟩

/-- Only tables are written where a path leads to or through. -/
theorem setAll_isRecord {all : List Leaf} {path : List String}
    (h : ∀ leaf ∈ all, leaf.1 <+: path → leaf.2.isTable) {old : Option Setting}
    (hold : ∀ v ∈ old.bind (at? path), IsRecord v) :
    ∀ v ∈ (setAll all old).bind (at? path), IsRecord v := by
  induction all generalizing old with
  | nil => exact hold
  | cons leaf rest ih =>
      rw [List.forall_mem_cons] at h
      have hgetD : IsRecord ((old.bind (at? path)).getD empty) := by
        cases hat : old.bind (at? path) with
        | none => exact isRecord_empty
        | some v => exact hold v hat
      refine ih h.2 ?_
      rw [Option.bind_some]
      by_cases hbelow : path <+: leaf.1
      · obtain ⟨rest', hleaf⟩ := hbelow
        rw [← hleaf, at?_setAt_append]
        rintro _ ⟨⟩
        cases rest' with
        | nil =>
            rw [setAt, if_pos (h.1 (by rw [← hleaf, List.append_nil]))]
            exact hgetD
        | cons key rest' =>
            rw [setAt]
            exact hgetD.withEntry _ _
      · rw [at?_setAt_of_not_below hbelow h.1]
        exact hold

/-! ## The entries of a merge -/

theorem put_eq_withEntry (key : String) (v root : Setting) :
    ∃ w, put key v root = root.withEntry (Text.lower key) w := by
  cases v <;> exact ⟨_, rfl⟩

theorem get?_merge_of_not_mem {es : List (String × Setting)} {key : String}
    (h : key ∉ es.map fun e => Text.lower e.1) (root : Setting) :
    Keyed.get? key (merge es root).entries = Keyed.get? key root.entries := by
  induction es generalizing root with
  | nil => rfl
  | cons e rest ih =>
      obtain ⟨k, v⟩ := e
      rw [List.map_cons, List.mem_cons, not_or] at h
      obtain ⟨w, hput⟩ := put_eq_withEntry k v root
      rw [merge, ih h.2, hput, entries_withEntry, Keyed.get?_put_of_ne (Ne.symm h.1)]

/-- Of entries with keys of their own each one is put into what is there. -/
theorem get?_merge {es : List (String × Setting)} (hkeys : (es.map fun e => Text.lower e.1).Nodup)
    {key : String} {v : Setting} (h : (key, v) ∈ es) (root : Setting) :
    ∃ root', Keyed.get? (Text.lower key) root'.entries = Keyed.get? (Text.lower key) root.entries ∧
      Keyed.get? (Text.lower key) (merge es root).entries =
        Keyed.get? (Text.lower key) (put key v root').entries := by
  induction es generalizing root with
  | nil => exact absurd h List.not_mem_nil
  | cons e rest ih =>
      rw [List.map_cons, List.nodup_cons] at hkeys
      rcases List.mem_cons.mp h with rfl | hrest
      · exact ⟨root, rfl, get?_merge_of_not_mem hkeys.1 _⟩
      · obtain ⟨root', hroot', hmerge⟩ := ih hkeys.2 hrest (put e.1 e.2 root)
        obtain ⟨w, hput⟩ := put_eq_withEntry e.1 e.2 root
        have hne : Text.lower e.1 ≠ Text.lower key := by
          intro heq
          exact hkeys.1 (List.mem_map.mpr ⟨(key, v), hrest, heq.symm⟩)
        refine ⟨root', ?_, hmerge⟩
        rw [hroot', hput, entries_withEntry, Keyed.get?_put_of_ne hne]

theorem merge_eq_table (es : List (String × Setting)) (origin : Option String)
    (entries : List (String × Setting)) :
    ∃ entries', merge es (.table origin entries) = .table origin entries' := by
  induction es generalizing entries with
  | nil => exact ⟨entries, rfl⟩
  | cons e rest ih =>
      obtain ⟨w, hput⟩ := put_eq_withEntry e.1 e.2 (.table origin entries)
      rw [merge, hput]
      exact ih _

section

variable {es : List (String × Setting)} (hkeys : (es.map fun e => Text.lower e.1).Nodup)
    {key : String}
include hkeys

theorem get?_merge_scalar {origin : Option String} {v : Scalar} (h : (key, .scalar origin v) ∈ es)
    (root : Setting) :
    Keyed.get? (Text.lower key) (merge es root).entries = some (.scalar origin v) := by
  obtain ⟨root', -, hmerge⟩ := get?_merge hkeys h root
  rw [hmerge, put, entries_withEntry, Keyed.get?_put_self]

theorem get?_merge_table {origin : Option String} {incoming : List (String × Setting)}
    (h : (key, .table origin incoming) ∈ es) (root : Setting) :
    Keyed.get? (Text.lower key) (merge es root).entries =
      some (merge incoming ((Keyed.get? (Text.lower key) root.entries).getD empty)) := by
  obtain ⟨root', hroot', hmerge⟩ := get?_merge hkeys h root
  rw [hmerge, put, entries_withEntry, Keyed.get?_put_self, hroot']

end

end Setting

end RecordListing
