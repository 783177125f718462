import RecordListing.Proofs.Pruning
import RecordListing.Proofs.Sorting

namespace RecordListing

/-!
# What a listing reads

A listing reads of a record only the fields of its mask: where two records agree
on these, they are sorted and shown alike. So nothing is lost when the records come
pruned to the mask.
-/

/-- Two records that have the same in every field of a mask. -/
def Mask.Agree (m : Mask) (a b : Json) : Prop := ∀ path ∈ m.paths, a.field? path = b.field? path

theorem Mask.agree_of_lookup {m : Mask} {a b : Json}
    (h : ∀ keys ∈ m.paths.map (·.segments), Json.lookup keys a = Json.lookup keys b) :
    m.Agree a b :=
  fun _ hpath => h _ (List.mem_map_of_mem hpath)

theorem Mask.agree_prune (m : Mask) (record : Json) : m.Agree (record.prune m) record :=
  fun _ hpath => Json.field?_prune hpath

theorem Mask.forall₂_agree_fetch (m : Mask) (store : Store) (kind : Kind) :
    List.Forall₂ m.Agree (store.fetch kind m) (store.records kind) := by
  unfold Store.fetch
  rw [List.forall₂_map_left_iff]
  exact List.forall₂_same.mpr fun record _ => m.agree_prune record

/-! ## One record -/

section Record

variable {e : Entity} {s : Selection} {a b : Json}

theorem Row.cell_congr (h : (Mask.ofSelection e s).Agree a b) {name : ColumnName}
    (hname : name ∈ s.columns) : cell e a name = cell e b name := by
  unfold cell
  cases hc : e.column? name with
  | none => rfl
  | some c =>
      have hfield : a.field? c.path = b.field? c.path :=
        h c.path (Mask.mem_ofSelection.mpr ⟨name, .inl hname, c, hc, rfl⟩)
      simp only [hfield]

theorem Row.project_congr (h : (Mask.ofSelection e s).Agree a b) :
    project e s.columns a = project e s.columns b := by
  unfold project
  congr 1
  apply List.map_congr_left
  intro name hname
  rw [cell_congr h hname]

end Record

/-! ## The whole listing -/

variable {overrides : Kind → Option Override} {r : Registry}

theorem Sorter.sort_congr (hr : Registry.withOverrides overrides = .ok r) {kind : Kind}
    {s : Selection} {as bs : List Json}
    (h : List.Forall₂ (Mask.ofSelection (r.entity kind) s).Agree as bs) :
    List.Forall₂ (Mask.ofSelection (r.entity kind) s).Agree
      ((ofRegistry r).sort kind s.sortKey as) ((ofRegistry r).sort kind s.sortKey bs) := by
  unfold sort
  cases hfind : s.sortKey.bind ((ofRegistry r).find? kind) with
  | none => exact h
  | some entry =>
      obtain ⟨name, hname, hentry⟩ := Option.bind_eq_some_iff.mp hfind
      obtain ⟨-, c, hc, rfl⟩ := (find?_eq_some_iff hr).mp hentry
      have hpath : c.path ∈ (Mask.ofSelection (r.entity kind) s).paths :=
        Mask.mem_ofSelection.mpr ⟨name, .inr hname, c, hc, rfl⟩
      apply forall₂_stableSort _ h
      intro a b a' b' ha hb
      simp only [SortEntry.compare, ha c.path hpath, hb c.path hpath]

namespace Registry

/-- Records that agree on the mask of a plan are presented as the same text. -/
theorem present_congr (hr : withOverrides overrides = .ok r) (style : TableStyle) {q : Request}
    {p : Plan} (hp : r.plan q = .ok p) {as bs : List Json} (h : List.Forall₂ p.mask.Agree as bs) :
    r.present style q p.selection as = r.present style q p.selection bs := by
  rw [(plan_eq_ok_iff.mp hp).2] at h
  have hrows : List.Forall₂ (fun a b => Row.project (r.entity q.kind) p.selection.columns a =
      Row.project (r.entity q.kind) p.selection.columns b)
      ((Sorter.ofRegistry r).sort q.kind p.selection.sortKey as)
      ((Sorter.ofRegistry r).sort q.kind p.selection.sortKey bs) :=
    (Sorter.sort_congr hr h).imp fun _ _ hab => Row.project_congr hab
  rw [← List.forall₂_map_right_iff, ← List.forall₂_map_left_iff, List.forall₂_eq_eq_eq] at hrows
  simp only [present, hrows]

/-- Records at hand are listed as if they came unpruned. -/
theorem list_store (hr : withOverrides overrides = .ok r) (style : TableStyle) {q : Request}
    {p : Plan} (hp : r.plan q = .ok p) (store : Store) :
    r.list style q store.source = r.conclude style q p ⟨[], .ok (store.records q.kind)⟩ := by
  have hagree := p.mask.forall₂_agree_fetch store q.kind
  rw [list_of_plan style hp]
  simp only [conclude, Store.source, present_congr hr style hp hagree, hagree.length_eq]

/-- A planned listing is determined by the fields of its mask. Its text is that of the records
sorted by the key of the plan, projected onto its columns and rendered, and records that
agree on the mask have one text. Of records at hand, which are pruned to the mask, it makes
the text that the unpruned records have, and other fields do not change the run. -/
theorem present_determined_by_mask (hr : withOverrides overrides = .ok r) (style : TableStyle)
    {q : Request} {p : Plan} (hp : r.plan q = .ok p) :
    let text (records : List Json) : String :=
      render style q.form (r.entity q.kind) p.selection.columns
        (((Sorter.ofRegistry r).sort q.kind p.selection.sortKey records).map
          (Row.project (r.entity q.kind) p.selection.columns))
    (∀ as bs, List.Forall₂ p.mask.Agree as bs → text as = text bs) ∧
    (∀ store : Store, (r.list style q store.source).outcome =
      .ok (text (store.records q.kind))) ∧
    ∀ store store' : Store,
      List.Forall₂ p.mask.Agree (store.records q.kind) (store'.records q.kind) →
        r.list style q store.source = r.list style q store'.source := by
  intro text
  refine ⟨?_, ?_, ?_⟩
  · intro as bs h
    exact present_congr hr style hp h
  · intro store
    rw [list_store hr style hp]
    rfl
  · intro store store' h
    rw [list_store hr style hp, list_store hr style hp]
    simp only [conclude, present_congr hr style hp h, h.length_eq]

/-- Volumes in the order of a column that is not shown, whatever their notes are. -/
theorem present_determined_by_mask_hidden_order :
    let q : Request :=
      ⟨.volume, [.ofText "id", .ofText "datacenter"], some (some (.ofText "mount_addr")), .table⟩
    let volumes (notes : String) : List Json := [
      .obj [("fileNetworkMountAddress", .str "b"), ("id", .num (.int 7)), ("notes", .str notes),
        ("serviceResource", .obj [("datacenter", .obj [("name", .str "dal05")])])],
      .obj [("fileNetworkMountAddress", .str "a"), ("id", .num (.int 8))]]
    let text : String :=
      "+----+------------+\n" ++
      "| ID | Datacenter |\n" ++
      "+=================+\n" ++
      "| 8  | -          |\n" ++
      "|----+------------|\n" ++
      "| 7  | dal05      |\n" ++
      "+----+------------+"
    ∃ r p, withOverrides (fun _ => none) = .ok r ∧ r.plan q = .ok p ∧ ∀ notes,
      render .ascii .table (r.entity .volume) p.selection.columns
        (((Sorter.ofRegistry r).sort .volume p.selection.sortKey (volumes notes)).map
          (Row.project (r.entity .volume) p.selection.columns)) = text ∧
      (r.list .ascii q (Store.empty.add .volume (volumes notes)).source).outcome = .ok text := by
  intro q volumes text
  let address := ColumnName.ofText "mount_addr"
  obtain ⟨r, hr⟩ := exists_withOverrides_none
  obtain ⟨hshown, hsortable, hmask, htext⟩ :=
    entity_of_any hr .volume (P := fun e =>
      (∀ name ∈ q.columns, e.Displayable name) ∧ e.Sortable address ∧
        (Mask.ofSelection e ⟨e.kind, q.columns, some address⟩).paths.map (·.segments) =
          [["id"], ["serviceResource", "datacenter", "name"], ["fileNetworkMountAddress"]] ∧
        (e.column? address).map (fun c => render .ascii .table e q.columns
          ((stableSort (fun a b => c.compare a b == .lt) (volumes "old")).map
            (Row.project e q.columns))) = some text) (by decide +kernel)
  let selection : Selection := ⟨(r.entity .volume).kind, q.columns, some address⟩
  have hselect : (r.entity .volume).select (some address) q.columns = .ok selection := by
    refine Entity.select_eq_ok_iff.mpr ⟨hshown, ?_, rfl⟩
    intro name hname
    cases hname
    exact hsortable
  have hp : r.plan q = .ok ⟨selection, .ofSelection (r.entity .volume) selection⟩ :=
    plan_eq_ok_iff.mpr ⟨hselect, rfl⟩
  have hagree (notes : String) :
      List.Forall₂ (Mask.ofSelection (r.entity .volume) selection).Agree (volumes notes)
        (volumes "old") := by
    refine .cons (Mask.agree_of_lookup ?_) (.cons (fun _ _ => rfl) .nil)
    rw [hmask]
    simp only [List.forall_mem_cons]
    exact ⟨rfl, rfl, rfl, fun _ h => nomatch h⟩
  obtain ⟨c, hc, htext⟩ := Option.map_eq_some_iff.mp htext
  have hsorted := Sorter.sort_eq_stableSort hr ((Sorter.supports_iff hr).mpr hsortable) hc
  obtain ⟨hsame, hrun, -⟩ := present_determined_by_mask hr .ascii hp
  have hold : render .ascii .table (r.entity .volume) selection.columns
      (((Sorter.ofRegistry r).sort .volume selection.sortKey (volumes "old")).map
        (Row.project (r.entity .volume) selection.columns)) = text := by
    rw [hsorted]
    exact htext
  refine ⟨r, _, hr, hp, fun notes => ?_⟩
  have hnotes := (hsame _ _ (hagree notes)).trans hold
  have hstore : (Store.empty.add .volume (volumes notes)).records q.kind = volumes notes := rfl
  have hlist := hrun (Store.empty.add .volume (volumes notes))
  rw [hstore] at hlist
  exact ⟨hnotes, hlist.trans (congrArg Except.ok hnotes)⟩

end Registry

end RecordListing
