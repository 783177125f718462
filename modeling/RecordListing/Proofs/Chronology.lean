import Mathlib
import RecordListing.Proofs.Sorting
import RecordListing.Proofs.UtcTexts

namespace RecordListing

/-!
# Chronological order

Timestamps of one spelling have the same separator and the same ending, and differ in numerals of
fixed width alone. The order of their texts is that of the instants, though the comparison of a
timestamp column reads no timestamp.
-/

namespace Timestamp

open Spelling Binary64

/-! ## Numerals -/

theorem append_lt_append_iff {as bs cs ds : List Char} (h : as.length = bs.length) :
    as ++ cs < bs ++ ds ↔ as < bs ∨ as = bs ∧ cs < ds := by
  induction as generalizing bs with
  | nil =>
      obtain rfl := List.eq_nil_of_length_eq_zero h.symm
      simp
  | cons a as ih =>
      obtain ⟨b, bs, rfl⟩ := List.exists_cons_of_length_eq_add_one h.symm
      rw [List.length_cons, List.length_cons, Nat.add_right_cancel_iff] at h
      simp only [List.cons_append, List.cons_lt_cons_iff, ih h, List.cons.injEq]
      tauto

theorem digitsValue_cons (c : Char) (ds : List Char) :
    digitsValue (c :: ds) = digitValue c * 10 ^ ds.length + digitsValue ds := by
  have hsingle : digitsValue [c] = digitValue c := Nat.ofDigits_singleton
  rw [← List.singleton_append, digitsValue_append, hsingle]

theorem digitValue_lt {c c' : Char} (hc : c.isDigit) (h : c < c') :
    digitValue c < digitValue c' := by
  have hzero := (Char.isDigit_iff_toNat.mp hc).1
  have hless : c.toNat < c'.toNat := h
  unfold digitValue
  omega

theorem digitsValue_lt_pow {ds : List Char} (h : ∀ c ∈ ds, c.isDigit) :
    digitsValue ds < 10 ^ ds.length := by
  have hten : ∀ n ∈ ds.reverse.map digitValue, n < 10 := by
    intro n hn
    obtain ⟨c, hc, rfl⟩ := List.mem_map.mp hn
    have hnine := (Char.isDigit_iff_toNat.mp (h c (List.mem_reverse.mp hc))).2
    have hvalues : '9'.toNat = 57 ∧ '0'.toNat = 48 := ⟨rfl, rfl⟩
    unfold digitValue
    omega
  simpa [digitsValue] using Nat.ofDigits_lt_base_pow_length (by decide) hten

theorem digitsValue_lt {ds ds' : List Char} (hlength : ds.length = ds'.length)
    (hds : ∀ c ∈ ds, c.isDigit) (h : ds < ds') : digitsValue ds < digitsValue ds' := by
  induction ds generalizing ds' with
  | nil =>
      obtain rfl := List.eq_nil_of_length_eq_zero hlength.symm
      exact absurd h (lt_irrefl _)
  | cons c ds ih =>
      obtain ⟨c', ds', rfl⟩ := List.exists_cons_of_length_eq_add_one hlength.symm
      rw [List.length_cons, List.length_cons, Nat.add_right_cancel_iff] at hlength
      rw [List.forall_mem_cons] at hds
      rw [digitsValue_cons, digitsValue_cons, hlength]
      rcases List.cons_lt_cons_iff.mp h with hfirst | ⟨rfl, hrest⟩
      · have hbelow := digitsValue_lt_pow hds.2
        rw [hlength] at hbelow
        have hstep := Nat.mul_le_mul_right (10 ^ ds'.length) (digitValue_lt hds.1 hfirst)
        rw [Nat.succ_mul] at hstep
        omega
      · exact Nat.add_lt_add_left (ih hlength hds.2 hrest) _

section Digits

variable {width n n' : Nat} {ds ds' : List Char}

theorem IsDigits.length_eq (h : IsDigits width ds n) (h' : IsDigits width ds' n') :
    ds.length = ds'.length := h.1.trans h'.1.symm

theorem IsDigits.lt (h : IsDigits width ds n) (h' : IsDigits width ds' n') (hless : ds < ds') :
    n < n' := by
  rw [← h.2.2, ← h'.2.2]
  exact digitsValue_lt (h.length_eq h') h.2.1 hless

theorem IsDigits.eq_iff (h : IsDigits width ds n) (h' : IsDigits width ds' n') :
    ds = ds' ↔ n = n' := by
  refine ⟨fun heq => by rw [← h.2.2, heq, h'.2.2], fun heq => ?_⟩
  rcases lt_trichotomy ds ds' with hless | hsame | hgreater
  · exact absurd heq (h.lt h' hless).ne
  · exact hsame
  · exact absurd heq (h'.lt h hgreater).ne'

theorem IsDigits.lt_iff (h : IsDigits width ds n) (h' : IsDigits width ds' n') :
    ds < ds' ↔ n < n' := by
  refine ⟨h.lt h', fun hless => ?_⟩
  rcases lt_trichotomy ds ds' with hfirst | hsame | hgreater
  · exact hfirst
  · exact absurd ((h.eq_iff h').mp hsame) hless.ne
  · exact absurd (h'.lt h hgreater) hless.asymm

end Digits

/-! ## Dates and times of day -/

section Parts

variable {cs cs' : List Char}

theorem IsDate.length_eq {d : Date} (h : IsDate cs d) : cs.length = 10 := by
  obtain ⟨hyear, hmonth, hday, -⟩ := h
  simp only [List.length_append, List.length_cons, hyear.1, hmonth.1, hday.1]

theorem IsTimeOfDay.length_eq {minute second : Nat} (h : IsTimeOfDay cs minute second) :
    cs.length = 8 := by
  obtain ⟨hhour, hminute, hsecond, -, -, -⟩ := h
  simp only [List.length_append, List.length_cons, hhour.1, hminute.1, hsecond.1]

theorem IsDate.eq_iff {d d' : Date} (h : IsDate cs d) (h' : IsDate cs' d') : cs = cs' ↔ d = d' := by
  obtain ⟨hyear, hmonth, hday, -⟩ := h
  obtain ⟨hyear', hmonth', hday', -⟩ := h'
  rw [List.append_eq_append_iff_of_size_eq_left (hyear.length_eq hyear'), hyear.eq_iff hyear',
    List.cons_inj_right, List.append_eq_append_iff_of_size_eq_left (hmonth.length_eq hmonth'),
    hmonth.eq_iff hmonth', List.cons_inj_right, hday.eq_iff hday']
  simp

theorem IsDate.lt_iff {d d' : Date} (h : IsDate cs d) (h' : IsDate cs' d') :
    cs < cs' ↔ d.Before d' := by
  obtain ⟨hyear, hmonth, hday, -⟩ := h
  obtain ⟨hyear', hmonth', hday', -⟩ := h'
  rw [append_lt_append_iff (hyear.length_eq hyear'), hyear.lt_iff hyear', hyear.eq_iff hyear',
    List.cons_lt_cons_iff, append_lt_append_iff (hmonth.length_eq hmonth'), hmonth.lt_iff hmonth',
    hmonth.eq_iff hmonth', List.cons_lt_cons_iff, hday.lt_iff hday']
  simp [Date.Before]

theorem IsTimeOfDay.lt_iff {m m' s s' : Nat} (h : IsTimeOfDay cs m s) (h' : IsTimeOfDay cs' m' s') :
    cs < cs' ↔ m < m' ∨ m = m' ∧ s < s' := by
  obtain ⟨hhour, hminute, hsecond, -, hm, -⟩ := h
  obtain ⟨hhour', hminute', hsecond', -, hm', -⟩ := h'
  rw [append_lt_append_iff (hhour.length_eq hhour'), hhour.lt_iff hhour', hhour.eq_iff hhour',
    List.cons_lt_cons_iff, append_lt_append_iff (hminute.length_eq hminute'),
    hminute.lt_iff hminute', hminute.eq_iff hminute', List.cons_lt_cons_iff,
    hsecond.lt_iff hsecond']
  simp only [lt_irrefl, false_or, true_and]
  omega

end Parts

/-! ## Instants -/

theorem Instant.place_injective :
    Function.Injective fun i : Instant => (toLex (i.minute, i.second) : Int ×ₗ Nat) := by
  rintro ⟨minute, second⟩ ⟨minute', second'⟩ h
  simpa using h

/-- An instant is before another one in an earlier minute, or in the same at an earlier second. -/
instance : LinearOrder Instant := LinearOrder.lift' _ Instant.place_injective

theorem Instant.lt_iff {i i' : Instant} :
    i < i' ↔ i.minute < i'.minute ∨ i.minute = i'.minute ∧ i.second < i'.second :=
  Prod.Lex.toLex_lt_toLex

theorem instant_lt_iff {t t' : Timestamp} (h : t.Real) (h' : t'.Real) (offset : Int) :
    t.instant offset < t'.instant offset ↔ t.date.Before t'.date ∨ t.date = t'.date ∧
      (t.minute < t'.minute ∨ t.minute = t'.minute ∧ t.second < t'.second) := by
  rw [Instant.lt_iff, ← Date.number_lt_iff h.date h'.date, ← Date.number_inj h.date h'.date]
  have hminute := h.minute
  have hminute' := h'.minute
  simp only [instant]
  omega

/-! ## Texts of one spelling -/

/-- A date of ten characters and a time of day of eight stand around a separator and before an
ending. -/
def HasSpelling (sep : Char) (ending : List Char) (s : String) : Prop :=
  ∃ date time : List Char, date.length = 10 ∧ time.length = 8 ∧
    s.toList = date ++ sep :: (time ++ ending)

section Spelling

variable {sep : Char} {ending : List Char}

/-- The ending alone gives the offset. -/
theorem IsWritten.exists_parts {s : String} (hspelled : HasSpelling sep ending s) {t : Timestamp}
    {offset : Int} (h : IsWritten s.toList t offset) :
    ∃ date time, s.toList = date ++ sep :: (time ++ ending) ∧ IsDate date t.date ∧
      IsTimeOfDay time t.minute t.second ∧ (skipFraction? ending).bind offset? = some offset := by
  obtain ⟨date, time, hdate, htime, htext⟩ := hspelled
  rw [htext] at h ⊢
  generalize hcs : date ++ sep :: (time ++ ending) = cs at h
  obtain ⟨hisDate, -, hisTime, hfraction, hzone⟩ := h
  obtain ⟨rfl, hrest⟩ := List.append_inj hcs (hdate.trans hisDate.length_eq.symm)
  obtain ⟨rfl, hbehind⟩ := List.cons.inj hrest
  obtain ⟨rfl, rfl⟩ := List.append_inj hbehind (htime.trans hisTime.length_eq.symm)
  refine ⟨_, _, rfl, hisDate, hisTime, ?_⟩
  rw [skipFraction?_append hfraction (head_of_isOffset hzone)]
  exact offset?_eq_some_iff.mpr hzone

variable {s s' : String} {i i' : Instant}

theorem lt_iff_of_spelling (hs : HasSpelling sep ending s) (hs' : HasSpelling sep ending s')
    (h : Denotes s i) (h' : Denotes s' i') : s < s' ↔ i < i' := by
  obtain ⟨t, offset, hwritten, rfl⟩ := h
  obtain ⟨t', offset', hwritten', rfl⟩ := h'
  obtain ⟨date, time, htext, hdate, htime, hoffset⟩ := hwritten.exists_parts hs
  obtain ⟨date', time', htext', hdate', htime', hoffset'⟩ := hwritten'.exists_parts hs'
  obtain rfl : offset = offset' := Option.some.inj (hoffset.symm.trans hoffset')
  rw [instant_lt_iff hwritten.real hwritten'.real, String.lt_iff_toList_lt, htext, htext',
    append_lt_append_iff (hdate.length_eq.trans hdate'.length_eq.symm), hdate.lt_iff hdate',
    hdate.eq_iff hdate', List.cons_lt_cons_iff,
    append_lt_append_iff (htime.length_eq.trans htime'.length_eq.symm), htime.lt_iff htime']
  simp only [lt_irrefl, and_false, or_false, false_or, true_and]

theorem compares_of_spelling (hs : HasSpelling sep ending s) (hs' : HasSpelling sep ending s')
    (h : Denotes s i) (h' : Denotes s' i') :
    (ValueKind.timestamp.compare (some (.str s)) (some (.str s'))).Compares i i' := by
  have hcompare : (Ord.compare s s').Compares s s' := (compare_iff s s').mp rfl
  have hless := lt_iff_of_spelling hs hs' h h'
  have hgreater := lt_iff_of_spelling hs' hs h' h
  change (Ord.compare s s').Compares i i'
  cases horder : Ord.compare s s' with
  | lt => exact hless.mp (hcompare.eq_lt.mp horder)
  | gt => exact hgreater.mp (hcompare.eq_gt.mp horder)
  | eq =>
      obtain rfl : s = s' := hcompare.eq_eq.mp horder
      exact le_antisymm (not_lt.mp fun hlt => lt_irrefl s (hgreater.mpr hlt))
        (not_lt.mp fun hlt => lt_irrefl s (hless.mpr hlt))

end Spelling

end Timestamp

namespace Column

open Timestamp

variable {c : Column}

/-- In this column the record has a timestamp of a spelling. -/
def HasInstant (c : Column) (sep : Char) (ending : List Char) (record : Json) (i : Instant) :
    Prop :=
  ∃ s, record.field? c.path = some (.str s) ∧ HasSpelling sep ending s ∧ Denotes s i

theorem compares_of_hasInstant (hkind : c.kind = .timestamp) {sep : Char} {ending : List Char}
    {a b : Json} {i j : Instant} (ha : c.HasInstant sep ending a i)
    (hb : c.HasInstant sep ending b j) : (c.compare a b).Compares i j := by
  obtain ⟨s, hfield, hspelled, hdenotes⟩ := ha
  obtain ⟨s', hfield', hspelled', hdenotes'⟩ := hb
  rw [Column.compare, hkind, hfield, hfield']
  exact compares_of_spelling hspelled hspelled' hdenotes hdenotes'

theorem keysUnmixed_of_timestamp (hkind : c.kind = .timestamp) (records : List Json) :
    c.KeysUnmixed records := by
  intro hnumeric
  rw [hkind] at hnumeric
  exact absurd hnumeric (by decide)

/-- Texts of one spelling are compared as the instants that they denote. Where a listing is
sorted by a timestamp column, records that have such texts come in chronological order, whatever
stands in the other records. -/
theorem compare_chronological (hkind : c.kind = .timestamp) (sep : Char) (ending : List Char) :
    (∀ (s s' : String) (i i' : Instant), HasSpelling sep ending s → HasSpelling sep ending s' →
      Denotes s i → Denotes s' i' →
        (c.kind.compare (some (.str s)) (some (.str s'))).Compares i i') ∧
    ∀ overrides r kind name, Registry.withOverrides overrides = .ok r →
      (r.entity kind).column? name = some c → (r.entity kind).Sortable name →
        ∀ records : List Json,
          ((Sorter.ofRegistry r).sort kind (some name) records).Perm records ∧
          ((Sorter.ofRegistry r).sort kind (some name) records).Pairwise fun a b =>
            ∀ i j, c.HasInstant sep ending a i → c.HasInstant sep ending b j → i ≤ j := by
  constructor
  · intro s s' i i' hs hs' h h'
    rw [hkind]
    exact compares_of_spelling hs hs' h h'
  · intro overrides r kind name hr hc hsortable records
    rw [Sorter.sort_eq_stableSort hr ((Sorter.supports_iff hr).mpr hsortable) hc]
    have hsorted := sortedBy_stableSort (keysUnmixed_of_timestamp hkind records).unblurred
    refine ⟨stableSort_perm _ _, hsorted.ascending.imp fun hascending i j ha hb => ?_⟩
    exact (compares_of_hasInstant hkind ha hb).ne_gt.mp hascending

/-- A leap second is before the second after it, which begins another year. -/
theorem compare_chronological_leapSecond :
    let s := "2016-12-31T23:59:60-05:30"
    let s' := "2017-01-01T00:00:00-05:30"
    let i : Instant := ⟨1440 * Date.number ⟨2017, 1, 1⟩ + 329, 60⟩
    let i' : Instant := ⟨1440 * Date.number ⟨2017, 1, 1⟩ + 330, 0⟩
    let records : List Json := [.obj [("snapshotCreationTimestamp", .str s')], .obj [],
      .obj [("snapshotCreationTimestamp", .str s)]]
    Denotes s i ∧ Denotes s' i' ∧
    ∃ r c, Registry.withOverrides (fun _ => none) = .ok r ∧
      (r.entity .snapshot).column? (.ofText "created") = some c ∧ c.kind = .timestamp ∧
      c.kind.compare (some (.str s)) (some (.str s')) = .lt ∧
      ((Sorter.ofRegistry r).sort .snapshot (some (.ofText "created")) records).Pairwise
        fun a b => ∀ i j, c.HasInstant 'T' "-05:30".toList a i →
          c.HasInstant 'T' "-05:30".toList b j → i ≤ j := by
  intro s s' i i' records
  have hs : Denotes s i :=
    ⟨⟨⟨2016, 12, 31⟩, 1439, 60⟩, -330, local?_eq_some_iff.mp (by decide), by decide⟩
  have hs' : Denotes s' i' :=
    ⟨⟨⟨2017, 1, 1⟩, 0, 0⟩, -330, local?_eq_some_iff.mp (by decide), by decide⟩
  have hspelled : HasSpelling 'T' "-05:30".toList s :=
    ⟨"2016-12-31".toList, "23:59:60".toList, by decide, by decide, by decide⟩
  have hspelled' : HasSpelling 'T' "-05:30".toList s' :=
    ⟨"2017-01-01".toList, "00:00:00".toList, by decide, by decide, by decide⟩
  obtain ⟨r, hr⟩ := Registry.exists_withOverrides_none
  have hbuilt := Entity.builtFrom_of_ofDeclaration (Registry.ofDeclaration_entity hr .snapshot)
  let declared : ColumnDeclaration :=
    ⟨"created", "snapshotCreationTimestamp", .timestamp, "Created", .raw⟩
  have hdeclared : declared ∈ (Catalogue.declaration .snapshot).columns := by
    simp [declared, Catalogue.declaration, Catalogue.snapshot, Catalogue.snapshotColumns]
  obtain ⟨c, hc, hgives⟩ := hbuilt.exists_column? hdeclared
  have hsortable : (r.entity .snapshot).Sortable (.ofText "created") := by
    rw [Entity.Sortable, hbuilt.gives.sortable]
    decide
  obtain ⟨hcompare, hsorted⟩ := compare_chronological hgives.kind 'T' "-05:30".toList
  have hbefore : i < i' := Instant.lt_iff.mpr (by decide)
  refine ⟨hs, hs', r, c, hr, hc, hgives.kind, ?_, ?_⟩
  · exact (hcompare s s' i i' hspelled hspelled' hs hs').eq_lt.mpr hbefore
  · exact (hsorted _ r .snapshot _ hr hc hsortable records).2

end Column

end RecordListing
