import RecordListing.Proofs.Comparison
import RecordListing.Proofs.Entities
import RecordListing.Proofs.Planning
import RecordListing.Proofs.StableOrder

namespace RecordListing

/-!
# Sorted records

The sorter of a registry supports the columns that an entity allows to order by, with
the path and the kind of the registered column. Where rounding cannot blur the keys
of the records at hand, it puts them in the stable ascending order of that column.
-/

/-! ## What the sorter supports -/

namespace Sorter

variable {overrides : Kind → Option Override} {r : Registry}

theorem mem_entriesOf {e : Entity} {entry : SortEntry} :
    entry ∈ entriesOf e ↔ ∃ name ∈ e.sortable, ∃ c, e.column? name = some c ∧
      entry = ⟨e.kind, name, c.path, c.kind⟩ := by
  simp only [entriesOf, List.mem_filterMap, Option.map_eq_some_iff, @eq_comm _ entry]

theorem mem_entries_ofRegistry {entry : SortEntry} :
    entry ∈ (ofRegistry r).entries ↔ ∃ kind, entry ∈ entriesOf (r.entity kind) := by
  simp [ofRegistry, Kind.mem_all]

theorem find?_eq_some_iff (hr : Registry.withOverrides overrides = .ok r) {kind : Kind}
    {name : ColumnName} {entry : SortEntry} :
    (ofRegistry r).find? kind name = some entry ↔
      (r.entity kind).Sortable name ∧ ∃ c, (r.entity kind).column? name = some c ∧
        entry = ⟨kind, name, c.path, c.kind⟩ := by
  have hfound : ∀ {found : SortEntry}, (ofRegistry r).find? kind name = some found →
      (r.entity kind).Sortable name ∧ ∃ c, (r.entity kind).column? name = some c ∧
        found = ⟨kind, name, c.path, c.kind⟩ := by
    intro found h
    have hmatch : found.kind = kind ∧ found.column = name := by
      simpa using List.find?_some h
    obtain ⟨kind', hmem⟩ := mem_entries_ofRegistry.mp (List.mem_of_find?_eq_some h)
    obtain ⟨name', hname', c, hc, rfl⟩ := mem_entriesOf.mp hmem
    simp only [Registry.kind_entity hr] at hmatch ⊢
    obtain ⟨rfl, rfl⟩ := hmatch
    exact ⟨hname', c, hc, rfl⟩
  constructor
  · exact hfound
  · rintro ⟨hname, c, hc, rfl⟩
    have hmem : (⟨kind, name, c.path, c.kind⟩ : SortEntry) ∈ (ofRegistry r).entries := by
      refine mem_entries_ofRegistry.mpr ⟨kind, mem_entriesOf.mpr ⟨name, hname, c, hc, ?_⟩⟩
      rw [Registry.kind_entity hr]
    -- Some entry is found, and any that is found is this one.
    cases hfind : (ofRegistry r).find? kind name with
    | none => simpa using List.find?_eq_none.mp hfind _ hmem
    | some found =>
        obtain ⟨-, c', hc', rfl⟩ := hfound hfind
        rw [Option.some.inj (hc'.symm.trans hc)]

theorem supports_iff (hr : Registry.withOverrides overrides = .ok r) {kind : Kind}
    {name : ColumnName} :
    (ofRegistry r).supports kind name = true ↔ (r.entity kind).Sortable name := by
  unfold supports
  rw [Option.isSome_iff_exists]
  constructor
  · rintro ⟨entry, hentry⟩
    exact ((find?_eq_some_iff hr).mp hentry).1
  · intro hname
    have hregistered := Registry.sortableRegistered_entity hr kind name hname
    obtain ⟨c, hc⟩ := Option.isSome_iff_exists.mp (Entity.column?_isSome hregistered)
    exact ⟨_, (find?_eq_some_iff hr).mpr ⟨hname, c, hc, rfl⟩⟩

theorem exists_column_of_supports (hr : Registry.withOverrides overrides = .ok r) {kind : Kind}
    {name : ColumnName} (h : (ofRegistry r).supports kind name = true) :
    ∃ c, (r.entity kind).column? name = some c := by
  obtain ⟨entry, hentry⟩ := Option.isSome_iff_exists.mp h
  obtain ⟨-, c, hc, -⟩ := (find?_eq_some_iff hr).mp hentry
  exact ⟨c, hc⟩

theorem sort_of_unsupported {s : Sorter} {kind : Kind} {name : ColumnName}
    (h : s.supports kind name = false) (records : List Json) :
    s.sort kind (some name) records = records := by
  have hentry : s.find? kind name = none := by
    simpa [supports] using h
  simp only [sort, Option.bind_some, hentry]

end Sorter

/-! ## Keys that rounding cannot blur -/

/-- No binary64 number stands beside an integer beyond 2^53. -/
def Unmixed (keys : List OrderKey) : Prop :=
  ¬ ((∃ x, OrderKey.number (.float x) ∈ keys) ∧
    ∃ n : Int, 2 ^ 53 < n.natAbs ∧ OrderKey.number (.int n) ∈ keys)

/-- No two integers among the keys have the number between them to which both are rounded. -/
def Unblurred (keys : List OrderKey) : Prop :=
  ∀ a ∈ keys, ∀ b ∈ keys, ∀ c ∈ keys, ¬ OrderKey.Blurred a b c

theorem Unmixed.unblurred {keys : List OrderKey} (h : Unmixed keys) : Unblurred keys := by
  rintro a ha b hb c hc ⟨x, y, z, hblurred, rfl, rfl, rfl⟩
  obtain ⟨n, hn, hxz⟩ := hblurred.exceeds
  obtain ⟨m, -, -, -, -, rfl, -⟩ := hblurred
  refine h ⟨⟨_, hb⟩, n, hn, ?_⟩
  rcases hxz with rfl | rfl
  · exact ha
  · exact hc

theorem OrderKey.textual_ne_number (v : Option Json) (n : Number) : textual v ≠ .number n := by
  unfold textual
  split <;> simp

theorem ValueKind.numeric_of_orderKey {kind : ValueKind} {v : Option Json} {n : Number}
    (h : kind.orderKey v = .number n) : kind = .integer ∨ kind = .count := by
  cases kind with
  | integer => exact .inl rfl
  | count => exact .inr rfl
  | text => exact absurd h (OrderKey.textual_ne_number v n)
  | timestamp => exact absurd h (OrderKey.textual_ne_number v n)

theorem ValueKind.orderKey_eq_absent_iff {kind : ValueKind} {v : Option Json} :
    kind.orderKey v = .absent ↔ v = none := by
  have hnumeric : OrderKey.numeric v = .absent ↔ v = none := by
    unfold OrderKey.numeric
    split
    · simp
    · simp
    · split <;> simp
    · simp
  have htextual : OrderKey.textual v = .absent ↔ v = none := by
    unfold OrderKey.textual
    split <;> simp
  have hcounting : OrderKey.counting v = .absent ↔ v = none := by
    unfold OrderKey.counting
    split
    · simp
    · exact hnumeric
  cases kind with
  | integer => exact hnumeric
  | text => exact htextual
  | timestamp => exact htextual
  | count => exact hcounting

namespace Column

def orderKey (c : Column) (record : Json) : OrderKey := c.kind.orderKey (record.field? c.path)

def compare (c : Column) (a b : Json) : Ordering :=
  c.kind.compare (a.field? c.path) (b.field? c.path)

instance (c : Column) : Std.OrientedCmp c.compare where
  eq_swap {_ _} := (Std.OrientedCmp.eq_swap : c.kind.compare _ _ = _)

/-- The keys of records in this column can be told apart where it matters. -/
def KeysUnmixed (c : Column) (records : List Json) : Prop :=
  c.kind = .integer ∨ c.kind = .count → Unmixed (records.map c.orderKey)

theorem KeysUnmixed.unblurred {c : Column} {records : List Json} (h : c.KeysUnmixed records) :
    Unblurred (records.map c.orderKey) := by
  intro a ha b hb d hd hblurred
  have hnumeric : c.kind = .integer ∨ c.kind = .count := by
    obtain ⟨n, -, -, -, rfl, -, -⟩ := hblurred
    obtain ⟨record, -, hkey⟩ := List.mem_map.mp ha
    exact ValueKind.numeric_of_orderKey hkey
  exact (h hnumeric).unblurred a ha b hb d hd hblurred

/-- Unblurred keys are sorted by a total preorder. -/
theorem stablyAscending {c : Column} {records : List Json}
    (h : Unblurred (records.map c.orderKey)) :
    StablyAscending c.compare records
      (stableSort (fun a b => c.compare a b == .lt) records) := by
  have hkeys : ∀ record ∈ records, c.orderKey record ∈ records.map c.orderKey :=
    fun _ hrecord => List.mem_map_of_mem hrecord
  apply stablyAscending_stableSort
  intro x hx y hy z hz hxy hyz
  have hxyz := h _ (hkeys x hx) _ (hkeys y hy) _ (hkeys z hz)
  exact (OrderKey.isLE_trans_or_blurred hxy hyz).resolve_right hxyz

/-- Nothing but an absent value is placed before an absent one. -/
theorem absent_of_compare {c : Column} {a b : Json} (h : c.compare a b ≠ .gt)
    (hb : b.field? c.path = none) : a.field? c.path = none := by
  have hkey : c.orderKey b = .absent := ValueKind.orderKey_eq_absent_iff.mpr hb
  suffices ha : c.orderKey a = .absent from ValueKind.orderKey_eq_absent_iff.mp ha
  change (c.orderKey a).compare (c.orderKey b) ≠ .gt at h
  rw [hkey] at h
  cases ha : c.orderKey a with
  | absent => rfl
  | number n => simp [ha, OrderKey.compare] at h
  | other s => simp [ha, OrderKey.compare] at h

end Column

/-! ## The sorted list -/

/-- Records in the order of a column. -/
structure SortedBy (c : Column) (records sorted : List Json) : Prop where
  stable : StablyAscending c.compare records sorted
  ascending : sorted.Pairwise fun a b => c.compare a b ≠ .gt
  absentFirst : sorted.Pairwise fun a b => b.field? c.path = none → a.field? c.path = none

theorem sortedBy_stableSort {c : Column} {records : List Json}
    (h : Unblurred (records.map c.orderKey)) :
    SortedBy c records (stableSort (fun a b => c.compare a b == .lt) records) := by
  have hstable := Column.stablyAscending h
  exact ⟨hstable, hstable.ascending, hstable.ascending.imp Column.absent_of_compare⟩

theorem Sorter.sort_eq_stableSort {overrides : Kind → Option Override} {r : Registry}
    (hr : Registry.withOverrides overrides = .ok r) {kind : Kind} {name : ColumnName}
    (hsupported : (ofRegistry r).supports kind name = true) {c : Column}
    (hc : (r.entity kind).column? name = some c) (records : List Json) :
    (ofRegistry r).sort kind (some name) records =
      stableSort (fun a b => c.compare a b == .lt) records := by
  obtain ⟨entry, hentry⟩ := Option.isSome_iff_exists.mp hsupported
  obtain ⟨-, c', hc', rfl⟩ := (find?_eq_some_iff hr).mp hentry
  cases hc.symm.trans hc'
  simp only [sort, Option.bind_some, hentry]
  rfl

/-- Records with unblurred keys that tie in the column to order by keep the order in which
they came. -/
theorem Sorter.filter_sort {overrides : Kind → Option Override} {r : Registry}
    (hr : Registry.withOverrides overrides = .ok r) {kind : Kind} {name : ColumnName} {c : Column}
    (hc : (r.entity kind).column? name = some c) {records : List Json}
    (h : Unblurred (records.map c.orderKey)) {p : Json → Bool}
    (htie : ∀ a ∈ records, ∀ b ∈ records, p a = true → p b = true → c.compare a b = .eq) :
    ((ofRegistry r).sort kind (some name) records).filter p = records.filter p := by
  by_cases hsupported : (ofRegistry r).supports kind name = true
  · rw [sort_eq_stableSort hr hsupported hc]
    exact (Column.stablyAscending h).filter_eq htie
  · rw [sort_of_unsupported (Bool.eq_false_of_not_eq_true hsupported)]

/-- Sorting returns a permutation. It leaves the order without a key and for a key that
is not supported, and a key that a plan accepts is supported. For every supported key
with unmixed keys of records, the result is in the order of the registered column. -/
theorem Sorter.sort_sortedBy {overrides : Kind → Option Override} {r : Registry}
    (hr : Registry.withOverrides overrides = .ok r) (kind : Kind) (key : SortKey)
    (records : List Json) :
    ((ofRegistry r).sort kind key records).Perm records ∧
      (key = none → (ofRegistry r).sort kind key records = records) ∧
      (∀ q p, r.plan q = .ok p → ∀ name, p.selection.sortKey = some name →
        (ofRegistry r).supports q.kind name = true) ∧
      ∀ name, key = some name →
        ((ofRegistry r).supports kind name = false →
          (ofRegistry r).sort kind key records = records) ∧
        ((ofRegistry r).supports kind name = true →
          ∃ c, (r.entity kind).column? name = some c ∧
            (c.KeysUnmixed records →
              SortedBy c records ((ofRegistry r).sort kind key records))) := by
  refine ⟨?_, ?_, ?_, ?_⟩
  · unfold sort
    split
    · exact List.Perm.refl _
    · exact stableSort_perm _ _
  · rintro rfl
    rfl
  · intro q p hp name hname
    exact (supports_iff hr).mpr (Registry.plan_sortable hp hname)
  · rintro name rfl
    constructor
    · intro hunsupported
      exact sort_of_unsupported hunsupported records
    · intro hsupported
      obtain ⟨c, hc⟩ := exists_column_of_supports hr hsupported
      refine ⟨c, hc, ?_⟩
      intro hunmixed
      rw [sort_eq_stableSort hr hsupported hc]
      exact sortedBy_stableSort hunmixed.unblurred

/-- Sizes of volumes as integers, as texts of digits and as binary64 numbers. -/
theorem Sorter.sort_sortedBy_capacity :
    let records : List Json := [
      .obj [("capacityGb", .num (.int 20))], .obj [],
      .obj [("capacityGb", .str "10")], .obj [("capacityGb", .num (.float (.ofInt 10)))]]
    ∃ r c, Registry.withOverrides (fun _ => none) = .ok r ∧
      (r.entity .volume).column? (.ofText "capacity_gb") = some c ∧ c.kind = .integer ∧
      SortedBy c records
        ((ofRegistry r).sort .volume (some (.ofText "capacity_gb")) records) := by
  intro records
  obtain ⟨r, hr⟩ := Registry.exists_withOverrides_none
  obtain ⟨hsortable, hregistered⟩ :=
    Registry.entity_of_any hr .volume (P := fun e =>
      e.Sortable (.ofText "capacity_gb") ∧
        (e.column? (.ofText "capacity_gb")).map (fun c => (c.path.segments, c.kind)) =
          some (["capacityGb"], .integer)) (by decide +kernel)
  obtain ⟨c, hc, hsorted⟩ :=
    ((sort_sortedBy hr .volume (some (.ofText "capacity_gb")) records).2.2.2 _ rfl).2
      ((supports_iff hr).mpr hsortable)
  obtain ⟨hpath, hkind⟩ : c.path.segments = ["capacityGb"] ∧ c.kind = .integer := by
    simpa [hc] using hregistered
  have hkeys : records.map c.orderKey =
      [.number (.int 20), .absent, .number (.int 10), .number (.float (.ofInt 10))] := by
    unfold Column.orderKey Json.field?
    rw [hpath, hkind]
    decide +kernel
  refine ⟨r, c, hr, hc, hkind, hsorted fun _ => ?_⟩
  rw [Unmixed, hkeys]
  rintro ⟨-, n, hn, hmem⟩
  simp only [List.mem_cons, OrderKey.number.injEq, Number.int.injEq, reduceCtorEq, List.not_mem_nil,
    or_false, false_or] at hmem
  omega

end RecordListing
