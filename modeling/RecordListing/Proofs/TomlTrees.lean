import RecordListing.Proofs.TomlDocuments

namespace RecordListing

/-!
# The tree of a document

Sections that belong together follow one another: those of a table and then those of the
tables in it. The tree of such a document has one table for each chapter, with the entries
and the tables in the order in which they are written.
-/

theorem Keyed.get?_eq_none_of_nodup {α : Type} {entries : Keyed α} {key : String}
    {keys : List String} (h : (entries.map (·.1) ++ key :: keys).Nodup) :
    get? key entries = none := by
  rw [get?_eq_none_iff]
  intro hmem
  exact (List.nodup_append.mp h).2.2 _ hmem _ List.mem_cons_self rfl

namespace Toml

def Assignment.node (e : Assignment) : String × Node := (e.key, .leaf e.value)

namespace Tree

theorem set_of_none {key : String} {t : Tree} (h : Keyed.get? key t = none) (n : Node) :
    set key n t = t ++ [(key, n)] := by
  simp only [set, h]

section

variable {p : String} {t : Tree} (hp : Keyed.get? p t = none)
include hp

theorem changeAt_last (f : Tree → Option Tree) (ps : List String) (origin : Origin)
    (sub : Tree) :
    changeAt f (p :: ps) (t ++ [(p, .table origin sub)]) =
      (changeAt f ps sub).map fun sub => t ++ [(p, .table origin sub)] := by
  have hget : Keyed.get? p (t ++ [(p, .table origin sub)]) = some (.table origin sub) := by
    simp [Keyed.get?_append, hp, Keyed.get?]
  have hset (sub' : Tree) : set p (.table origin sub') (t ++ [(p, .table origin sub)]) =
      t ++ [(p, .table origin sub')] := by
    simp only [set, hget, Keyed.replace_append_of_none hp]
    simp [Keyed.replace]
  simp only [changeAt, hget, hset]

theorem foldlM_changeAt_last {ε : Type} (f : ε → Tree → Option Tree) (ps : List String)
    (origin : Origin) (changes : List ε) (sub : Tree) :
    changes.foldlM (fun t e => changeAt (f e) (p :: ps) t) (t ++ [(p, .table origin sub)]) =
      (changes.foldlM (fun t e => changeAt (f e) ps t) sub).map fun sub =>
        t ++ [(p, .table origin sub)] := by
  induction changes generalizing sub with
  | nil => rfl
  | cons e changes ih =>
      rw [List.foldlM_cons, List.foldlM_cons, changeAt_last hp]
      cases changeAt (f e) ps sub with
      | none => rfl
      | some sub' => exact ih sub'

theorem changeAt_missing (f : Tree → Option Tree) (ps : List String) :
    changeAt f (p :: ps) t = changeAt f (p :: ps) (t ++ [(p, .table .laterHeader [])]) := by
  rw [changeAt_last hp, changeAt, hp]
  simp only [set_of_none hp]

end

theorem foldlM_addKey {t : Tree} {entries : List Assignment}
    (h : (t.map (·.1) ++ entries.map (·.key)).Nodup) :
    entries.foldlM (fun t e => changeAt (addKey e.key e.value []) [] t) t =
      some (t ++ entries.map Assignment.node) := by
  induction entries generalizing t with
  | nil => simp
  | cons e entries ih =>
      have hnew : Keyed.get? e.key t = none := Keyed.get?_eq_none_of_nodup h
      have hadd : changeAt (addKey e.key e.value []) [] t = some (t ++ [e.node]) := by
        simp only [changeAt, addKey, hnew, set_of_none hnew, Assignment.node]
      rw [List.foldlM_cons, hadd]
      have htail := ih (t := t ++ [e.node]) (by simpa [Assignment.node] using h)
      rw [List.append_assoc] at htail
      exact htail

end Tree

namespace Block

theorem addTo_new {t : Tree} {key : String} (hkey : Keyed.get? key t = none)
    {entries : List Assignment} (h : (entries.map (·.key)).Nodup) :
    addTo ⟨[], key, entries⟩ t =
      some (t ++ [(key, .table .header (entries.map Assignment.node))]) := by
  have hopen : t.changeAt (Tree.openTable key) [] = some (t ++ [(key, .table .header [])]) := by
    simp only [Tree.changeAt, Tree.openTable, hkey, Tree.set_of_none hkey]
  have hentries := Tree.foldlM_addKey (t := []) (by simpa using h)
  have hlast := Tree.foldlM_changeAt_last hkey
    (fun (e : Assignment) => Tree.addKey e.key e.value []) [] .header entries []
  rw [hentries, List.nil_append, Option.map_some] at hlast
  simp only [addTo, hopen, Option.bind_eq_bind, Option.bind_some]
  exact hlast

theorem addTo_last {p : String} {t : Tree} (hp : Keyed.get? p t = none) (ps : List String)
    (key : String) (entries : List Assignment) (origin : Origin) (sub : Tree) :
    addTo ⟨p :: ps, key, entries⟩ (t ++ [(p, .table origin sub)]) =
      (addTo ⟨ps, key, entries⟩ sub).map fun sub => t ++ [(p, .table origin sub)] := by
  have hpath : path ⟨p :: ps, key, entries⟩ = p :: path ⟨ps, key, entries⟩ := rfl
  simp only [addTo, Tree.changeAt_last hp, hpath, Option.bind_eq_bind]
  cases sub.changeAt (Tree.openTable key) ps with
  | none => rfl
  | some sub' =>
      exact Tree.foldlM_changeAt_last hp
        (fun (e : Assignment) => Tree.addKey e.key e.value []) _ _ _ _

theorem addTo_missing {p : String} {t : Tree} (hp : Keyed.get? p t = none) (ps : List String)
    (key : String) (entries : List Assignment) :
    addTo ⟨p :: ps, key, entries⟩ t =
      addTo ⟨p :: ps, key, entries⟩ (t ++ [(p, .table .laterHeader [])]) := by
  simp only [addTo, Tree.changeAt_missing hp (Tree.openTable key) ps]

end Block

/-! ## Chapters of sections -/

/-- A table with the entries under its own header, if it has one, and the tables in it. -/
structure Chapter where
  name : String
  own : Option (List Assignment)
  parts : List (String × List Assignment)

namespace Chapter

def blocks (g : Chapter) : List Block :=
  (g.own.map fun entries => ⟨[], g.name, entries⟩).toList ++
    g.parts.map fun part => ⟨[g.name], part.1, part.2⟩

/-- In the table and in each of the tables in it every key stands once. -/
structure HasOwnKeys (g : Chapter) : Prop where
  members : ((g.own.getD []).map (·.key) ++ g.parts.map (·.1)).Nodup
  parts : ∀ part ∈ g.parts, (part.2.map (·.key)).Nodup

def members (g : Chapter) : List (String × Toml) :=
  ((g.own.getD []).map fun e => (e.key, e.value)) ++
    g.parts.map fun part => (part.1, .table (part.2.map fun e => (e.key, e.value)))

/-- The table, unless nothing is written of it. -/
def toToml (g : Chapter) : List (String × Toml) :=
  if g.own.isNone ∧ g.parts = [] then [] else [(g.name, .table g.members)]

def partNode (part : String × List Assignment) : String × Node :=
  (part.1, .table .header (part.2.map Assignment.node))

def nodes (g : Chapter) : Tree := (g.own.getD []).map Assignment.node ++ g.parts.map partNode

def tree (g : Chapter) : Tree :=
  match g.own with
  | some _ => [(g.name, .table .header g.nodes)]
  | none => if g.parts = [] then [] else [(g.name, .table .laterHeader g.nodes)]

theorem foldlM_addTo_parts {p : String} {t : Tree} (hp : Keyed.get? p t = none)
    {parts : List (String × List Assignment)} (hparts : ∀ part ∈ parts, (part.2.map (·.key)).Nodup)
    (origin : Origin) (sub : Tree) (hkeys : (sub.map (·.1) ++ parts.map (·.1)).Nodup) :
    (parts.map fun part => (⟨[p], part.1, part.2⟩ : Block)).foldlM (fun t b => b.addTo t)
        (t ++ [(p, .table origin sub)]) =
      some (t ++ [(p, .table origin (sub ++ parts.map partNode))]) := by
  induction parts generalizing sub with
  | nil => simp
  | cons part parts ih =>
      rw [List.forall_mem_cons] at hparts
      have hnew : Keyed.get? part.1 sub = none := Keyed.get?_eq_none_of_nodup hkeys
      have hadd := Block.addTo_last hp [] part.1 part.2 origin sub
      rw [Block.addTo_new hnew hparts.1, Option.map_some] at hadd
      have htail := ih hparts.2 (sub ++ [partNode part]) (by simpa [partNode] using hkeys)
      rw [List.append_assoc] at htail
      rw [List.map_cons, List.foldlM_cons, hadd]
      exact htail

theorem foldlM_addTo {g : Chapter} (h : g.HasOwnKeys) {t : Tree}
    (hname : Keyed.get? g.name t = none) :
    g.blocks.foldlM (fun t b => b.addTo t) t = some (t ++ g.tree) := by
  obtain ⟨name, own, parts⟩ := g
  obtain ⟨hkeys, hparts⟩ := h
  cases own with
  | some entries =>
      have hown : (entries.map (·.key)).Nodup := (List.nodup_append.mp hkeys).1
      rw [blocks, Option.map_some, Option.toList_some, List.singleton_append, List.foldlM_cons,
        Block.addTo_new hname hown]
      refine foldlM_addTo_parts hname hparts .header _ ?_
      simpa [Function.comp_def, Assignment.node] using hkeys
  | none =>
      cases parts with
      | nil => simp [blocks, tree]
      | cons part parts =>
          have hmissing := Block.addTo_missing hname [] part.1 part.2
          have hall := foldlM_addTo_parts hname hparts .laterHeader [] (by simpa using hkeys)
          rw [List.map_cons, List.foldlM_cons, ← hmissing] at hall
          exact hall

theorem foldlM_chapters {chapters : List Chapter} (h : ∀ g ∈ chapters, g.HasOwnKeys) {t : Tree}
    (hnames : (t.map (·.1) ++ chapters.map (·.name)).Nodup) :
    (chapters.flatMap blocks).foldlM (fun t b => b.addTo t) t =
      some (t ++ chapters.flatMap tree) := by
  induction chapters generalizing t with
  | nil => simp
  | cons g chapters ih =>
      rw [List.forall_mem_cons] at h
      have hnew : Keyed.get? g.name t = none := Keyed.get?_eq_none_of_nodup hnames
      have htail : ((t ++ g.tree).map (·.1) ++ chapters.map (·.name)).Nodup := by
        refine hnames.sublist ?_
        rw [List.map_append, List.append_assoc, List.map_cons, ← List.singleton_append]
        refine (List.Sublist.refl _).append (List.Sublist.append ?_ (List.Sublist.refl _))
        unfold tree
        split
        · exact .refl _
        · split
          · exact List.nil_sublist _
          · exact .refl _
      rw [List.flatMap_cons, List.foldlM_append, foldlM_addTo h.1 hnew]
      simp only [Option.bind_eq_bind, Option.bind_some]
      rw [ih h.2 htail, List.flatMap_cons, List.append_assoc]

end Chapter

/-! ## The value of the tree -/

theorem entriesToToml_append (t t' : Tree) :
    Node.entriesToToml (t ++ t') = Node.entriesToToml t ++ Node.entriesToToml t' := by
  induction t with
  | nil => rfl
  | cons e t ih =>
      rw [List.cons_append, Node.entriesToToml, Node.entriesToToml, ih, List.cons_append]

theorem entriesToToml_map {ε : Type} {f : ε → String × Node} {g : ε → String × Toml}
    (h : ∀ e, ((f e).1, (f e).2.toToml) = g e) (es : List ε) :
    Node.entriesToToml (es.map f) = es.map g := by
  induction es with
  | nil => rfl
  | cons e es ih => rw [List.map_cons, Node.entriesToToml, h, ih, List.map_cons]

theorem entriesToToml_entries (entries : List Assignment) :
    Node.entriesToToml (entries.map Assignment.node) = entries.map fun e => (e.key, e.value) :=
  entriesToToml_map (fun _ => rfl) entries

namespace Chapter

theorem entriesToToml_nodes (g : Chapter) : Node.entriesToToml g.nodes = g.members := by
  rw [nodes, entriesToToml_append, entriesToToml_entries, members]
  refine congrArg _ (entriesToToml_map (fun part => ?_) g.parts)
  rw [partNode, Node.toToml, entriesToToml_entries]

theorem entriesToToml_tree (g : Chapter) : Node.entriesToToml g.tree = g.toToml := by
  have hnodes := g.entriesToToml_nodes
  unfold tree toToml
  cases g.own with
  | some entries => simp [Node.entriesToToml, Node.toToml, hnodes]
  | none =>
      by_cases hparts : g.parts = []
      · simp [hparts, Node.entriesToToml]
      · simp [hparts, Node.entriesToToml, Node.toToml, hnodes]

theorem entriesToToml_flatMap_tree (chapters : List Chapter) :
    Node.entriesToToml (chapters.flatMap tree) = chapters.flatMap toToml := by
  induction chapters with
  | nil => rfl
  | cons g chapters ih =>
      rw [List.flatMap_cons, entriesToToml_append, ih, entriesToToml_tree, List.flatMap_cons]

end Chapter

/-- A document of chapters of sections holds the tables of the chapters. -/
theorem ofText?_chapters (gap : List String → Nat) (last : Nat) {chapters : List Chapter}
    (hshown : ∀ g ∈ chapters, ∀ b ∈ g.blocks, b.IsShown) (hkeys : ∀ g ∈ chapters, g.HasOwnKeys)
    (hnames : (chapters.map (·.name)).Nodup) :
    ofText? (spaced gap last ((chapters.flatMap Chapter.blocks).map Block.toSection)) =
      (table (chapters.flatMap Chapter.toToml)).resolved? := by
  have hadd := Chapter.foldlM_chapters hkeys (t := []) (by simpa using hnames)
  have hblocks : ∀ b ∈ chapters.flatMap Chapter.blocks, b.IsShown := by
    intro b hb
    obtain ⟨g, hg, hmem⟩ := List.mem_flatMap.mp hb
    exact hshown g hg b hmem
  rw [ofText?_spaced gap last hblocks hadd, Node.toToml, List.nil_append,
    Chapter.entriesToToml_flatMap_tree]

end Toml

end RecordListing
