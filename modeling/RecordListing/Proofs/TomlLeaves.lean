import RecordListing.Proofs.LayeredTrees
import RecordListing.Proofs.TomlTrees

namespace RecordListing

/-!
# The leaves of a document

Putting the tables of a document in the order of their keys keeps its leaves, unless one of
the tables stands for an instant. So a document of chapters gives exactly the values under its
headers, and an empty table for each header with nothing under it.
-/

open Setting Layer

/-! ## Trees of settings -/

namespace Setting

theorem entryLeaves_eq_flatMap (es : List (String × Setting)) :
    entryLeaves es = es.flatMap fun e => (leaves e.2).map (Leaf.under [Text.lower e.1]) := by
  induction es with
  | nil => rfl
  | cons e es ih => rw [entryLeaves, ih, List.flatMap_cons]

theorem mem_entryLeaves {es : List (String × Setting)} {leaf : Leaf} :
    leaf ∈ entryLeaves es ↔
      ∃ e ∈ es, ∃ leaf' ∈ leaves e.2, leaf = leaf'.under [Text.lower e.1] := by
  simp [entryLeaves_eq_flatMap, eq_comm]

theorem Leaf.not_clashes_under {a b : Leaf} (h : ¬ a.Clashes b) (key : String) :
    ¬ (a.under [key]).Clashes (b.under [key]) := by
  simpa [Leaf.Clashes, Leaf.under, List.cons_prefix_cons] using h

theorem Leaf.not_clashes_of_ne {key key' : String} (h : key ≠ key') (a b : Leaf) :
    ¬ (a.under [key]).Clashes (b.under [key']) := by
  simp [Leaf.Clashes, Leaf.under, List.cons_prefix_cons, h, h.symm]

/-- No leaves clash where no table has a key twice, up to the case of letters. -/
theorem pairwise_entryLeaves {es : List (String × Setting)}
    (hkeys : (es.map fun e => Text.lower e.1).Nodup)
    (h : ∀ e ∈ es, (leaves e.2).Pairwise fun a b => ¬ a.Clashes b) :
    (entryLeaves es).Pairwise fun a b => ¬ a.Clashes b := by
  induction es with
  | nil => exact .nil
  | cons e es ih =>
      rw [List.map_cons, List.nodup_cons] at hkeys
      rw [List.forall_mem_cons] at h
      rw [entryLeaves, List.pairwise_append]
      refine ⟨List.pairwise_map.mpr (h.1.imp fun hab => Leaf.not_clashes_under hab _),
        ih hkeys.2 h.2, fun a ha b hb => ?_⟩
      obtain ⟨a', -, rfl⟩ := List.mem_map.mp ha
      obtain ⟨e', he', b', -, rfl⟩ := mem_entryLeaves.mp hb
      refine Leaf.not_clashes_of_ne ?_ a' b'
      intro heq
      exact hkeys.1 (heq ▸ List.mem_map_of_mem he')

/-- What stands where no leaf leads to stays as it is. -/
theorem setAll_unchanged {all : List Leaf} {path : List String}
    (h : ∀ leaf ∈ all, ¬ path <+: leaf.1 ∧ (leaf.1 <+: path → leaf.2.isTable))
    (old : Option Setting) : (setAll all old).bind (at? path) = old.bind (at? path) := by
  induction all generalizing old with
  | nil => rfl
  | cons leaf rest ih =>
      rw [List.forall_mem_cons] at h
      rw [setAll_cons, ih h.2, Option.bind_some]
      by_cases habove : leaf.1 <+: path
      · obtain ⟨rest', rfl⟩ := habove
        cases rest' with
        | nil => simp at h
        | cons key rest' => exact at?_setAt_of_isTable (h.1.2 (List.prefix_append _ _)) _ _ _ _
      · exact at?_setAt_of_apart h.1.1 habove _ _

end Setting

namespace Toml

theorem ofTomlEntries_eq_map (origin : Option String) (es : List (String × Toml)) :
    ofTomlEntries origin es = es.map fun e => (e.1, ofToml origin e.2) := by
  induction es with
  | nil => rfl
  | cons e es ih => rw [ofTomlEntries, ih, List.map_cons]

theorem mem_entryLeaves_ofTomlEntries {origin : Option String} {es : List (String × Toml)}
    {leaf : Leaf} : leaf ∈ entryLeaves (ofTomlEntries origin es) ↔
      ∃ e ∈ es, ∃ leaf' ∈ leaves (ofToml origin e.2), leaf = leaf'.under [Text.lower e.1] := by
  rw [mem_entryLeaves, ofTomlEntries_eq_map]
  simp

theorem mem_leaves_table {origin : Option String} {es : List (String × Toml)} {leaf : Leaf} :
    leaf ∈ leaves (ofToml origin (.table es)) ↔ (es = [] ∧ leaf = ([], empty)) ∨
      ∃ e ∈ es, ∃ leaf' ∈ leaves (ofToml origin e.2), leaf = leaf'.under [Text.lower e.1] := by
  rw [← mem_entryLeaves_ofTomlEntries]
  cases es <;> simp [ofToml, ofTomlEntries, Setting.leaves, entryLeaves]

/-! ## Tables in the order of their keys -/

/-- No table in the value stands for an instant or has a key twice. -/
structure IsOrdinary (v : Toml) : Prop where
  resolved : ∃ v', v.resolved? = some v' ∧
    ∀ origin, (leaves (ofToml origin v')).Perm (leaves (ofToml origin v))
  apart : ∀ origin, (leaves (ofToml origin v)).Pairwise fun a b => ¬ a.Clashes b

theorem IsOrdinary.of_noTable {v : Toml} (hresolved : v.resolved? = some v)
    (h : ∀ origin, (ofToml origin v).isTable = false) : IsOrdinary v where
  resolved := ⟨v, hresolved, fun _ => .refl _⟩
  apart origin := by
    rw [leaves_of_not_table (h origin)]
    exact List.pairwise_singleton _ _

theorem isOrdinary_text (s : String) : IsOrdinary (.text s) := .of_noTable rfl fun _ => rfl

theorem isOrdinary_bool (b : Bool) : IsOrdinary (.bool b) := .of_noTable rfl fun _ => rfl

theorem isOrdinary_texts (texts : List String) : IsOrdinary (.array (texts.map .text)) := by
  have hitems : resolvedItems? (texts.map .text) = some (texts.map .text) := by
    induction texts with
    | nil => rfl
    | cons s texts ih => simp [resolvedItems?, resolved?, ih]
  exact .of_noTable (by rw [resolved?, hitems, Option.map_some]) fun _ => rfl

theorem resolved?_table {es : List (String × Toml)}
    (h : (es.map (·.1)).head? ≠ some instantKey) :
    (table es).resolved? = (resolvedEntries? es).map .table := by
  cases es with
  | nil => rfl
  | cons e es =>
      obtain ⟨key, v⟩ := e
      have hkey : key ≠ instantKey := fun heq => h (congrArg some heq)
      rw [resolved?.eq_def, resolvedEntries?]
      simp only [if_neg hkey, Option.bind_eq_bind, Option.map_bind, Option.pure_def,
        Function.comp_def, Option.map_some]

theorem resolvedEntries?_cons_eq_some {key : String} {v : Toml} {es es' : List (String × Toml)} :
    resolvedEntries? ((key, v) :: es) = some es' ↔ ∃ v' rest', v.resolved? = some v' ∧
      resolvedEntries? es = some rest' ∧ Keyed.put key v' rest' = es' := by
  simp [resolvedEntries?, Option.bind_eq_some_iff]

theorem get?_resolvedEntries? {es es' : List (String × Toml)} (h : resolvedEntries? es = some es')
    (key : String) : Keyed.get? key es' = (Keyed.get? key es).bind resolved? := by
  induction es generalizing es' with
  | nil =>
      obtain rfl : [] = es' := Option.some.inj h
      rfl
  | cons e rest ih =>
      obtain ⟨k, v⟩ := e
      obtain ⟨v', rest', hv, hrest, rfl⟩ := resolvedEntries?_cons_eq_some.mp h
      by_cases hk : k = key
      · subst hk
        rw [Keyed.get?_put_self, Keyed.get?, if_pos rfl, Option.bind_some, hv]
      · rw [Keyed.get?_put_of_ne hk, Keyed.get?, if_neg hk]
        exact ih hrest

theorem nodup_resolvedEntries? {es es' : List (String × Toml)}
    (h : resolvedEntries? es = some es') : (es'.map (·.1)).Nodup := by
  induction es generalizing es' with
  | nil =>
      obtain rfl : [] = es' := Option.some.inj h
      exact List.nodup_nil
  | cons e rest ih =>
      obtain ⟨v', rest', hv, hrest, rfl⟩ := resolvedEntries?_cons_eq_some.mp h
      exact Keyed.nodup_put e.1 v' (ih hrest)

theorem mem_keys_of_resolvedEntries? {es es' : List (String × Toml)}
    (h : resolvedEntries? es = some es') {key : String} (hkey : key ∈ es'.map (·.1)) :
    key ∈ es.map (·.1) := by
  by_contra hnot
  rw [← Keyed.get?_eq_none_iff] at hnot
  have hget := get?_resolvedEntries? h key
  rw [hnot, Option.bind_none, Keyed.get?_eq_none_iff] at hget
  exact hget hkey

theorem isSome_resolved?_of_mem {es es' : List (String × Toml)} (h : resolvedEntries? es = some es')
    {e : String × Toml} (he : e ∈ es) : e.2.resolved?.isSome := by
  induction es generalizing es' with
  | nil => exact absurd he List.not_mem_nil
  | cons first rest ih =>
      obtain ⟨v', rest', hv, hrest, rfl⟩ := resolvedEntries?_cons_eq_some.mp h
      rcases List.mem_cons.mp he with rfl | he
      · rw [hv]
        rfl
      · exact ih hrest he

/-- A table that begins with the reserved key is an instant, if it is anything. -/
theorem resolved?_of_instantKey {es : List (String × Toml)} {v : Toml}
    (h : (es.map (·.1)).head? = some instantKey) (hv : (table es).resolved? = some v) :
    ∃ s, v = .instant s := by
  cases es with
  | nil => cases h
  | cons first rest =>
      obtain ⟨key, w⟩ := first
      have hkey : key = instantKey := Option.some.inj h
      rw [resolved?.eq_def] at hv
      simp only [if_pos hkey] at hv
      split at hv
      · obtain ⟨cs, -, rfl⟩ := Option.map_eq_some_iff.mp hv
        exact ⟨_, rfl⟩
      · cases hv

theorem exists_resolvedEntries? {es : List (String × Toml)} (hkeys : (es.map (·.1)).Nodup)
    (h : ∀ e ∈ es, e.2.IsOrdinary) :
    ∃ es', resolvedEntries? es = some es' ∧ (es'.map (·.1)).Perm (es.map (·.1)) ∧
      ∀ origin, (entryLeaves (ofTomlEntries origin es')).Perm
        (entryLeaves (ofTomlEntries origin es)) := by
  induction es with
  | nil => exact ⟨[], rfl, .refl _, fun _ => .refl _⟩
  | cons e es ih =>
      obtain ⟨key, v⟩ := e
      rw [List.map_cons, List.nodup_cons] at hkeys
      rw [List.forall_mem_cons] at h
      obtain ⟨v', hv', hvalue⟩ := h.1.resolved
      obtain ⟨es', hes', hperm, hrest⟩ := ih hkeys.2 h.2
      have hnew : Keyed.get? key es' = none :=
        Keyed.get?_eq_none_iff.mpr fun hmem => hkeys.1 (hperm.mem_iff.mp hmem)
      -- Where the key is new, putting it in its place permutes the entries.
      have hput : (Keyed.put key v' es').Perm ((key, v') :: es') := by
        rw [Keyed.put_of_none hnew]
        exact Keyed.insertSorted_perm key v' es'
      refine ⟨Keyed.put key v' es', ?_, ?_, fun origin => ?_⟩
      · simp only [resolvedEntries?, hv', hes', Option.bind_eq_bind, Option.bind_some,
          Option.pure_def]
      · have hkeys' := hput.map Prod.fst
        exact hkeys'.trans (hperm.cons key)
      · have hflat := (hput.map fun e => (e.1, ofToml origin e.2)).flatMap_right
          fun e => (leaves e.2).map (Leaf.under [Text.lower e.1])
        rw [← entryLeaves_eq_flatMap, ← entryLeaves_eq_flatMap, ← ofTomlEntries_eq_map,
          ← ofTomlEntries_eq_map] at hflat
        refine hflat.trans ?_
        rw [ofTomlEntries, entryLeaves, ofTomlEntries, entryLeaves]
        exact ((hvalue origin).map _).append (hrest origin)

theorem nodup_lower_ofTomlEntries {es : List (String × Toml)} (hkeys : (es.map (·.1)).Nodup)
    (hlower : ∀ e ∈ es, Text.lower e.1 = e.1) (origin : Option String) :
    ((ofTomlEntries origin es).map fun e => Text.lower e.1).Nodup := by
  have hsame : es.map (fun e => Text.lower e.1) = es.map (·.1) := List.map_congr_left hlower
  simpa [ofTomlEntries_eq_map, Function.comp_def, hsame] using hkeys

theorem pairwise_entryLeaves {es : List (String × Toml)} (hkeys : (es.map (·.1)).Nodup)
    (hlower : ∀ e ∈ es, Text.lower e.1 = e.1) (h : ∀ e ∈ es, e.2.IsOrdinary)
    (origin : Option String) :
    (entryLeaves (ofTomlEntries origin es)).Pairwise fun a b => ¬ a.Clashes b := by
  refine Setting.pairwise_entryLeaves (nodup_lower_ofTomlEntries hkeys hlower origin) ?_
  rw [ofTomlEntries_eq_map, List.forall_mem_map]
  exact fun e he => (h e he).apart origin

theorem isOrdinary_table {es : List (String × Toml)}
    (hhead : (es.map (·.1)).head? ≠ some instantKey) (hkeys : (es.map (·.1)).Nodup)
    (hlower : ∀ e ∈ es, Text.lower e.1 = e.1)
    (h : ∀ e ∈ es, e.2.IsOrdinary) : IsOrdinary (.table es) where
  resolved := by
    obtain ⟨es', hes', hperm, hleaves⟩ := exists_resolvedEntries? hkeys h
    refine ⟨.table es', by rw [resolved?_table hhead, hes', Option.map_some], fun origin => ?_⟩
    cases es with
    | nil =>
        obtain rfl : es' = [] := by simpa using hperm
        exact .refl _
    | cons e es =>
        cases es' with
        | nil => simp at hperm
        | cons e' es' => exact hleaves origin
  apart origin := by
    cases es with
    | nil => exact List.pairwise_singleton _ _
    | cons e es => exact pairwise_entryLeaves hkeys hlower h origin

/-! ## Chapters of sections -/

/-- The entry is written as what it stands for, its key is in lower case and its value is no
table. -/
structure Assignment.IsOrdinary (e : Assignment) : Prop where
  shown : Shows (nestingLimit - 1) e.form.toList e.value
  key : Text.lower e.key = e.key
  value : e.value.IsOrdinary
  noTable : ∀ origin, (ofToml origin e.value).isTable = false

theorem isOrdinary_entries {entries : List Assignment} (hkeys : (entries.map (·.key)).Nodup)
    (h : ∀ e ∈ entries, e.IsOrdinary) (hhead : (entries.map (·.key)).head? ≠ some instantKey) :
    IsOrdinary (.table (entries.map fun e => (e.key, e.value))) := by
  refine isOrdinary_table ?_ ?_ ?_ ?_
  · simpa [Function.comp_def] using hhead
  · simpa [Function.comp_def] using hkeys
  · simpa using fun e he => (h e he).key
  · simpa using fun e he => (h e he).value

theorem mem_leaves_entry {e : Assignment} (h : e.IsOrdinary) {origin : Option String}
    {leaf : Leaf} :
    leaf ∈ leaves (ofToml origin e.value) ↔ leaf = ([], ofToml origin e.value) := by
  rw [leaves_of_not_table (h.noTable origin), List.mem_singleton]

theorem mem_leaves_entries {entries : List Assignment} (h : ∀ e ∈ entries, e.IsOrdinary)
    {origin : Option String} {leaf : Leaf} :
    leaf ∈ leaves (ofToml origin (.table (entries.map fun e => (e.key, e.value)))) ↔
      (entries = [] ∧ leaf = ([], empty)) ∨
        ∃ e ∈ entries, leaf = ([e.key], ofToml origin e.value) := by
  rw [mem_leaves_table, List.map_eq_nil_iff]
  refine or_congr Iff.rfl ?_
  constructor
  · rintro ⟨_, hmem, leaf', hleaf, rfl⟩
    obtain ⟨e, he, rfl⟩ := List.mem_map.mp hmem
    refine ⟨e, he, ?_⟩
    rw [(mem_leaves_entry (h e he)).mp hleaf, Leaf.under, (h e he).key, List.append_nil]
  · rintro ⟨e, he, rfl⟩
    refine ⟨_, List.mem_map_of_mem he, _, (mem_leaves_entry (h e he)).mpr rfl, ?_⟩
    rw [Leaf.under, (h e he).key, List.append_nil]

namespace Chapter

structure IsOrdinary (g : Chapter) : Prop extends g.HasOwnKeys where
  name : Text.lower g.name = g.name
  own : ∀ e ∈ g.own.getD [], e.IsOrdinary
  inParts : ∀ part ∈ g.parts, Text.lower part.1 = part.1 ∧ ∀ e ∈ part.2, e.IsOrdinary

/-- No table of the chapter begins with the key that marks an instant. -/
structure HasNoInstant (g : Chapter) : Prop where
  name : g.name ≠ instantKey
  members : (g.members.map (·.1)).head? ≠ some instantKey
  parts : ∀ part ∈ g.parts, (part.2.map (·.key)).head? ≠ some instantKey

theorem IsOrdinary.isShown {g : Chapter} (h : g.IsOrdinary) : ∀ b ∈ g.blocks, b.IsShown := by
  intro b hb
  rcases List.mem_append.mp hb with hown | hpart
  · obtain ⟨entries, hentries, rfl⟩ := Option.map_eq_some_iff.mp (Option.mem_toList.mp hown)
    refine ⟨(by decide : 0 < nestingLimit - 1), fun e he => (h.own e ?_).shown⟩
    rwa [hentries]
  · obtain ⟨part, hmem, rfl⟩ := List.mem_map.mp hpart
    exact ⟨(by decide : 1 < nestingLimit - 1), fun e he => ((h.inParts part hmem).2 e he).shown⟩

theorem IsOrdinary.nodup_members {g : Chapter} (h : g.IsOrdinary) :
    (g.members.map (·.1)).Nodup := by
  simpa [Chapter.members, Function.comp_def] using h.members

theorem IsOrdinary.lower_members {g : Chapter} (h : g.IsOrdinary) :
    ∀ e ∈ g.members, Text.lower e.1 = e.1 := by
  intro e he
  rcases List.mem_append.mp he with hown | hpart
  · obtain ⟨entry, hentry, rfl⟩ := List.mem_map.mp hown
    exact (h.own entry hentry).key
  · obtain ⟨part, hmem, rfl⟩ := List.mem_map.mp hpart
    exact (h.inParts part hmem).1

theorem isOrdinary_members {g : Chapter} (h : g.IsOrdinary) (hinstant : g.HasNoInstant) :
    Toml.IsOrdinary (.table g.members) := by
  refine isOrdinary_table hinstant.members h.nodup_members h.lower_members ?_
  · intro e he
    rcases List.mem_append.mp he with hown | hpart
    · obtain ⟨entry, hentry, rfl⟩ := List.mem_map.mp hown
      exact (h.own entry hentry).value
    · obtain ⟨part, hmem, rfl⟩ := List.mem_map.mp hpart
      exact isOrdinary_entries (h.parts part hmem) (h.inParts part hmem).2
        (hinstant.parts part hmem)

/-- The leaves of a chapter, with their places in the document. -/
inductive Gives (g : Chapter) (origin : Option String) : Leaf → Prop
  | own {e : Assignment} (h : e ∈ g.own.getD []) :
      Gives g origin ([g.name, e.key], ofToml origin e.value)
  | part {part : String × List Assignment} {e : Assignment} (hpart : part ∈ g.parts)
      (h : e ∈ part.2) :
      Gives g origin ([g.name, part.1, e.key], ofToml origin e.value)
  | emptyPart {part : String × List Assignment} (hpart : part ∈ g.parts) (h : part.2 = []) :
      Gives g origin ([g.name, part.1], empty)
  | empty (hown : g.own = some []) (hparts : g.parts = []) : Gives g origin ([g.name], empty)

theorem mem_leaves_members {g : Chapter} (h : g.IsOrdinary) {origin : Option String} {leaf : Leaf} :
    leaf ∈ leaves (ofToml origin (.table g.members)) ↔
      (g.members = [] ∧ leaf = ([], Setting.empty)) ∨
      (∃ e ∈ g.own.getD [], leaf = ([e.key], ofToml origin e.value)) ∨
      ∃ part ∈ g.parts, (part.2 = [] ∧ leaf = ([part.1], Setting.empty)) ∨
        ∃ e ∈ part.2, leaf = ([part.1, e.key], ofToml origin e.value) := by
  rw [mem_leaves_table]
  refine or_congr Iff.rfl ?_
  constructor
  · rintro ⟨_, hmem, leaf', hleaf, rfl⟩
    rcases List.mem_append.mp hmem with hown | hpart
    · obtain ⟨e, he, rfl⟩ := List.mem_map.mp hown
      refine .inl ⟨e, he, ?_⟩
      rw [(mem_leaves_entry (h.own e he)).mp hleaf, Leaf.under, (h.own e he).key,
        List.append_nil]
    · obtain ⟨part, hmem', rfl⟩ := List.mem_map.mp hpart
      obtain ⟨hname, hentries⟩ := h.inParts part hmem'
      refine .inr ⟨part, hmem', ?_⟩
      rcases (mem_leaves_entries hentries).mp hleaf with ⟨hnil, rfl⟩ | ⟨e, he, rfl⟩
      · exact .inl ⟨hnil, by rw [Leaf.under, hname, List.append_nil]⟩
      · exact .inr ⟨e, he, by rw [Leaf.under, hname, List.singleton_append]⟩
  · rintro (⟨e, he, rfl⟩ | ⟨part, hpart, hleaf⟩)
    · refine ⟨_, List.mem_append_left _ (List.mem_map_of_mem he), _,
        (mem_leaves_entry (h.own e he)).mpr rfl, ?_⟩
      rw [Leaf.under, (h.own e he).key, List.append_nil]
    · obtain ⟨hname, hentries⟩ := h.inParts part hpart
      have hmem := List.mem_append_right ((g.own.getD []).map fun e => (e.key, e.value))
        (List.mem_map_of_mem (f := fun part : String × List Assignment =>
          (part.1, table (part.2.map fun e => (e.key, e.value)))) hpart)
      rcases hleaf with ⟨hnil, rfl⟩ | ⟨e, he, rfl⟩
      · refine ⟨_, hmem, _, (mem_leaves_entries hentries).mpr (.inl ⟨hnil, rfl⟩), ?_⟩
        rw [Leaf.under, hname, List.append_nil]
      · refine ⟨_, hmem, _, (mem_leaves_entries hentries).mpr (.inr ⟨e, he, rfl⟩), ?_⟩
        rw [Leaf.under, hname, List.singleton_append]

theorem mem_leaves_iff {g : Chapter} (h : g.IsOrdinary) {origin : Option String} {leaf : Leaf} :
    leaf ∈ entryLeaves (ofTomlEntries origin g.toToml) ↔ g.Gives origin leaf := by
  rw [mem_entryLeaves_ofTomlEntries, toToml]
  split
  · rename_i hunwritten
    obtain ⟨hown, hparts⟩ := hunwritten
    rw [Option.isNone_iff_eq_none] at hown
    constructor
    · rintro ⟨e, he, -⟩
      exact absurd he List.not_mem_nil
    · rintro (he | ⟨hpart, -⟩ | ⟨hpart, -⟩ | ⟨hsome, -⟩)
      · rw [hown] at he
        exact absurd he List.not_mem_nil
      · rw [hparts] at hpart
        exact absurd hpart List.not_mem_nil
      · rw [hparts] at hpart
        exact absurd hpart List.not_mem_nil
      · rw [hown] at hsome
        cases hsome
  · rename_i hwritten
    constructor
    · rintro ⟨_, hmem, leaf', hleaf, rfl⟩
      obtain rfl := List.mem_singleton.mp hmem
      rw [Leaf.under, h.name]
      rcases (mem_leaves_members h).mp hleaf with
        ⟨hnil, rfl⟩ | ⟨e, he, rfl⟩ | ⟨part, hpart, ⟨hnil, rfl⟩ | ⟨e, he, rfl⟩⟩
      · -- The table is written and empty, so it has a header of its own.
        rw [members, List.append_eq_nil_iff, List.map_eq_nil_iff, List.map_eq_nil_iff] at hnil
        refine .empty ?_ hnil.2
        cases hown : g.own with
        | none => exact absurd ⟨by rw [hown]; rfl, hnil.2⟩ hwritten
        | some entries =>
            rw [hown] at hnil
            exact congrArg some hnil.1
      · exact .own he
      · exact .emptyPart hpart hnil
      · exact .part hpart he
    · intro hgives
      refine ⟨_, List.mem_singleton_self _, (leaf.1.drop 1, leaf.2), ?_, ?_⟩
      · rw [mem_leaves_members h]
        cases hgives with
        | own he => exact .inr (.inl ⟨_, he, rfl⟩)
        | part hpart he => exact .inr (.inr ⟨_, hpart, .inr ⟨_, he, rfl⟩⟩)
        | emptyPart hpart hnil => exact .inr (.inr ⟨_, hpart, .inl ⟨hnil, rfl⟩⟩)
        | empty hown hparts => exact .inl ⟨by simp [members, hown, hparts], rfl⟩
      · rw [Leaf.under, h.name]
        cases hgives <;> rfl

theorem map_fst_flatMap_toToml (chapters : List Chapter) :
    ((chapters.flatMap toToml).map (·.1)).Sublist (chapters.map (·.name)) := by
  induction chapters with
  | nil => exact .refl _
  | cons g chapters ih =>
      have hfirst : (g.toToml.map (·.1)).Sublist [g.name] := by
        unfold toToml
        split
        · exact List.nil_sublist _
        · exact .refl _
      rw [List.flatMap_cons, List.map_append]
      exact hfirst.append ih

theorem exists_of_mem_toToml {chapters : List Chapter} {e : String × Toml}
    (he : e ∈ chapters.flatMap toToml) : ∃ g ∈ chapters, e = (g.name, .table g.members) := by
  obtain ⟨g, hg, hmem⟩ := List.mem_flatMap.mp he
  refine ⟨g, hg, ?_⟩
  unfold toToml at hmem
  split at hmem
  · exact absurd hmem List.not_mem_nil
  · exact List.mem_singleton.mp hmem

section

variable {chapters : List Chapter} (h : ∀ g ∈ chapters, g.IsOrdinary)
    (hnames : (chapters.map (·.name)).Nodup)
include h hnames

/-- A document of chapters holds the tables of the chapters in the order of their keys. -/
theorem ofText?_chapters (hinstant : ∀ g ∈ chapters, g.name ≠ instantKey) (gap : List String → Nat)
    (last : Nat) :
    ofText? (spaced gap last ((chapters.flatMap blocks).map Block.toSection)) =
      (resolvedEntries? (chapters.flatMap toToml)).map .table := by
  rw [Toml.ofText?_chapters gap last (fun g hg => (h g hg).isShown)
    (fun g hg => (h g hg).toHasOwnKeys) hnames]
  refine resolved?_table fun hhead => ?_
  obtain ⟨e, he, hkey⟩ := List.mem_map.mp (List.mem_of_head? hhead)
  obtain ⟨g, hg, rfl⟩ := exists_of_mem_toToml he
  exact hinstant g hg hkey

/-- Where no table stands for an instant, the leaves of the chapters are those of the document. -/
theorem exists_leaves (hinstant : ∀ g ∈ chapters, g.HasNoInstant) :
    ∃ es, resolvedEntries? (chapters.flatMap toToml) = some es ∧ ∀ origin,
      ((entryLeaves (ofTomlEntries origin es)).Pairwise fun a b => ¬ a.Clashes b) ∧
      ∀ leaf, leaf ∈ entryLeaves (ofTomlEntries origin es) ↔
        ∃ g ∈ chapters, g.Gives origin leaf := by
  have hkeys : ((chapters.flatMap toToml).map (·.1)).Nodup :=
    hnames.sublist (map_fst_flatMap_toToml chapters)
  have hordinary : ∀ e ∈ chapters.flatMap toToml, e.2.IsOrdinary := by
    intro e he
    obtain ⟨g, hg, rfl⟩ := exists_of_mem_toToml he
    exact isOrdinary_members (h g hg) (hinstant g hg)
  have hlower : ∀ e ∈ chapters.flatMap toToml, Text.lower e.1 = e.1 := by
    intro e he
    obtain ⟨g, hg, rfl⟩ := exists_of_mem_toToml he
    exact (h g hg).name
  obtain ⟨es, hes, -, hleaves⟩ := exists_resolvedEntries? hkeys hordinary
  refine ⟨es, hes, fun origin => ⟨?_, fun leaf => ?_⟩⟩
  · have happart := pairwise_entryLeaves hkeys hlower hordinary origin
    refine ((hleaves origin).pairwise_iff ?_).mpr happart
    intro a b hab hba
    exact hab hba.symm
  · rw [(hleaves origin).mem_iff, mem_entryLeaves_ofTomlEntries]
    constructor
    · rintro ⟨e, he, hleaf⟩
      obtain ⟨g, hg, hmem⟩ := List.mem_flatMap.mp he
      exact ⟨g, hg, (mem_leaves_iff (h g hg)).mp
        (mem_entryLeaves_ofTomlEntries.mpr ⟨e, hmem, hleaf⟩)⟩
    · rintro ⟨g, hg, hgives⟩
      obtain ⟨e, hmem, hleaf⟩ := mem_entryLeaves_ofTomlEntries.mp
        ((mem_leaves_iff (h g hg)).mpr hgives)
      exact ⟨e, List.mem_flatMap.mpr ⟨g, hg, hmem⟩, hleaf⟩

end

end Chapter

end Toml

end RecordListing
