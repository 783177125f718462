import Mathlib
import RecordListing.Proofs.Calendar
import RecordListing.Proofs.Declarations
import RecordListing.Proofs.TimestampTexts
import RecordListing.Row

namespace RecordListing

/-!
# Texts in UTC

A timestamp denotes an instant: a minute of UTC and a second in that minute, which is the
sixtieth for a leap second. What is shown of a timestamp is written from its instant alone. It
denotes the same instant, or nothing if the year has no four digits, and is shown as it is.
-/

namespace Timestamp

open Spelling Binary64

/-! ## Instants -/

/-- A minute of UTC, counted from a fixed one, and a second in it. -/
structure Instant where
  minute : Int
  second : Nat
  deriving DecidableEq

/-- The instant of a date and time of day at an offset from UTC. -/
def instant (t : Timestamp) (offset : Int) : Instant :=
  ⟨1440 * t.date.number + t.minute - offset, t.second⟩

/-- The instant that a text is written for. -/
def Denotes (s : String) (i : Instant) : Prop :=
  ∃ t offset, IsWritten s.toList t offset ∧ t.instant offset = i

/-- A real date with a time of that day. -/
structure Real (t : Timestamp) : Prop where
  date : t.date.Real
  minute : t.minute < 1440
  second : t.second ≤ 60

section Utc

variable {t t' : Timestamp} {offset : Int}

theorem IsWritten.real {cs : List Char} (h : IsWritten cs t offset) : t.Real := by
  obtain ⟨⟨-, -, -, hreal⟩, -, ⟨-, -, -, hh, hm, hs⟩, -, -⟩ := h
  exact ⟨hreal, by dsimp only; omega, hs⟩

theorem IsWritten.offset_lt {cs : List Char} (h : IsWritten cs t offset) : |offset| < 1440 := by
  obtain ⟨-, -, -, -, hzone⟩ := h
  rw [abs_lt]
  cases hzone with
  | utc => decide
  | east _ _ hh hm => omega
  | west _ _ _ hh hm => omega

/-- A day holds the minutes between the neighbouring dates. -/
theorem real_toUtc (h : t.Real) (hoffset : |offset| < 1440) : (t.toUtc offset).Real := by
  obtain ⟨hdate, hminute, hsecond⟩ := h
  rw [abs_lt] at hoffset
  unfold toUtc
  dsimp only
  split_ifs with hbefore hwithin
  · exact ⟨Date.real_previous hdate, by dsimp only; omega, hsecond⟩
  · exact ⟨hdate, by dsimp only; omega, hsecond⟩
  · exact ⟨Date.real_next hdate, by dsimp only; omega, hsecond⟩

theorem instant_toUtc (h : t.Real) (hoffset : |offset| < 1440) :
    (t.toUtc offset).instant 0 = t.instant offset := by
  rw [abs_lt] at hoffset
  unfold toUtc
  dsimp only
  split_ifs with hbefore hwithin
  · simp only [instant, Date.number_previous h.date, Instant.mk.injEq, and_true]
    omega
  · simp only [instant, Instant.mk.injEq, and_true]
    omega
  · simp only [instant, Date.number_next h.date, Instant.mk.injEq, and_true]
    omega

theorem toUtc_zero (h : t.Real) : t.toUtc 0 = t := by
  have hminute := h.minute
  unfold toUtc
  dsimp only
  rw [if_neg (by omega), if_pos (by omega), sub_zero, Int.toNat_natCast]

/-- Every minute lies in one day. -/
theorem instant_inj (h : t.Real) (h' : t'.Real) : t.instant 0 = t'.instant 0 ↔ t = t' := by
  refine ⟨fun heq => ?_, fun heq => heq ▸ rfl⟩
  obtain ⟨date, minute, second⟩ := t
  obtain ⟨date', minute', second'⟩ := t'
  obtain ⟨hdate, hminute, -⟩ := h
  obtain ⟨hdate', hminute', -⟩ := h'
  simp only [instant, Instant.mk.injEq] at heq hdate hminute hdate' hminute'
  obtain rfl : date = date' := (Date.number_inj hdate hdate').mp (by omega)
  obtain rfl : minute = minute' := by omega
  rw [heq.2]

end Utc

/-! ## Reading -/

theorem ofText?_eq_some_iff {s : String} {u : Timestamp} :
    ofText? s = some u ↔ ∃ t offset, IsWritten s.toList t offset ∧ t.toUtc offset = u := by
  simp only [ofText?, Option.map_eq_some_iff, Prod.exists, local?_eq_some_iff]

theorem Denotes.ofText? {s : String} {i : Instant} (h : Denotes s i) :
    ∃ u, Timestamp.ofText? s = some u ∧ u.Real ∧ u.instant 0 = i := by
  obtain ⟨t, offset, hwritten, rfl⟩ := h
  exact ⟨t.toUtc offset, ofText?_eq_some_iff.mpr ⟨t, offset, hwritten, rfl⟩,
    real_toUtc hwritten.real hwritten.offset_lt, instant_toUtc hwritten.real hwritten.offset_lt⟩

theorem real_of_ofText? {s : String} {u : Timestamp} (h : Timestamp.ofText? s = some u) :
    u.Real := by
  obtain ⟨t, offset, hwritten, rfl⟩ := ofText?_eq_some_iff.mp h
  exact real_toUtc hwritten.real hwritten.offset_lt

/-! ## Writing -/

theorem digitsValue_padded (width n : Nat) : digitsValue (padded width n) = n := by
  unfold padded
  dsimp only
  rw [← zeros, digitsValue_zeros_append, digitsValue_toDigits]

theorem padded_inj {width n n' : Nat} : padded width n = padded width n' ↔ n = n' := by
  refine ⟨fun h => ?_, fun h => h ▸ rfl⟩
  rw [← digitsValue_padded width n, h, digitsValue_padded]

theorem isDigit_of_mem_padded {width n : Nat} {c : Char} (h : c ∈ padded width n) :
    c.isDigit := by
  rcases List.mem_append.mp h with hzero | hdigit
  · exact isDigit_of_mem_zeros hzero
  · exact isDigit_of_mem_toDigits hdigit

theorem isDigits_padded {width n : Nat} (hwidth : 0 < width) (h : n < 10 ^ width) :
    IsDigits width (padded width n) n := by
  have hlength := (Nat.length_toDigits_le_iff (show 1 < 10 by decide) hwidth).mpr h
  refine ⟨?_, fun c => isDigit_of_mem_padded, digitsValue_padded width n⟩
  simp only [padded, List.length_append, List.length_replicate]
  omega

theorem padded_append_inj {width n n' : Nat} {cs cs' : List Char} (hwidth : 0 < width)
    (h : n < 10 ^ width) (h' : n' < 10 ^ width) :
    padded width n ++ cs = padded width n' ++ cs' ↔ n = n' ∧ cs = cs' := by
  have hlength : (padded width n).length = (padded width n').length :=
    (isDigits_padded hwidth h).1.trans (isDigits_padded hwidth h').1.symm
  rw [List.append_eq_append_iff_of_size_eq_left hlength, padded_inj]

theorem padded_ne_cons {width n : Nat} {c : Char} {cs : List Char} (hc : c.isDigit = false) :
    padded width n ≠ c :: cs := by
  intro h
  have hdigit : c.isDigit := isDigit_of_mem_padded (h ▸ List.mem_cons_self)
  rw [hc] at hdigit
  cases hdigit

theorem yearText_inj {y y' : Int} : yearText y = yearText y' ↔ y = y' := by
  refine ⟨fun h => ?_, fun h => h ▸ rfl⟩
  unfold yearText at h
  split_ifs at h
  all_goals simp [padded_inj, padded_ne_cons, (padded_ne_cons _).symm] at h
  all_goals omega

section Write

variable {t t' : Timestamp}

/-- The text after the year. -/
def afterYear (t : Timestamp) : List Char :=
  '-' :: (padded 2 t.date.month ++ '-' :: (padded 2 t.date.day ++ 'T' ::
    (padded 2 (t.minute / 60) ++ ':' :: (padded 2 (t.minute % 60) ++
      ':' :: (padded 2 t.second ++ ['Z'])))))

theorem write_eq (t : Timestamp) : t.write = yearText t.date.year ++ t.afterYear := by
  simp only [write, afterYear, List.append_assoc, List.cons_append]

/-- All that is written after the year has two digits. -/
theorem Real.lt_hundred (h : t.Real) : t.date.month < 10 ^ 2 ∧ t.date.day < 10 ^ 2 ∧
    t.minute / 60 < 10 ^ 2 ∧ t.minute % 60 < 10 ^ 2 ∧ t.second < 10 ^ 2 := by
  obtain ⟨⟨-, hmonth, -, hday⟩, hminute, hsecond⟩ := h
  have hlength := Date.monthLength_le t.date.year t.date.month
  omega

/-- What is written of a year with four digits is read back. -/
theorem isWritten_write (h : t.Real) (hyear : 0 ≤ t.date.year ∧ t.date.year ≤ 9999) :
    IsWritten t.write t 0 := by
  obtain ⟨hmonth, hday, hhour, hminute, hsecond⟩ := h.lt_hundred
  obtain ⟨⟨year, month, day⟩, minute, second⟩ := t
  obtain ⟨hdate, hend, hlast⟩ := h
  obtain ⟨y, rfl⟩ := Int.eq_ofNat_of_zero_le hyear.1
  have hyear' : y < 10 ^ 4 := by
    have hhigh : (y : Int) ≤ 9999 := hyear.2
    omega
  have htext : yearText (y : Int) = padded 4 y := by
    rw [yearText, if_neg (by omega), if_pos hyear.2, Int.natAbs_natCast]
  have hdateText : IsDate (padded 4 y ++ '-' :: (padded 2 month ++ '-' :: padded 2 day))
      ⟨y, month, day⟩ :=
    .intro (isDigits_padded (by decide) hyear') (isDigits_padded (by decide) hmonth)
      (isDigits_padded (by decide) hday) hdate
  have htimeText : IsTimeOfDay (padded 2 (minute / 60) ++ ':' :: (padded 2 (minute % 60) ++
      ':' :: padded 2 second)) (minute / 60 * 60 + minute % 60) second :=
    .intro (isDigits_padded (by decide) hhour) (isDigits_padded (by decide) hminute)
      (isDigits_padded (by decide) hsecond) (by dsimp only at hend; omega) (by omega) hlast
  rw [Nat.div_add_mod'] at htimeText
  have hwritten := IsWritten.intro hdateText (.inl rfl) htimeText (.inl rfl) (.utc (.inl rfl))
  rw [write_eq, htext]
  simpa only [afterYear, List.append_assoc, List.cons_append, List.nil_append] using hwritten

/-- A year without four digits is written with a sign before it. -/
theorem not_isWritten_write (hyear : ¬ (0 ≤ t.date.year ∧ t.date.year ≤ 9999)) {u : Timestamp}
    {offset : Int} : ¬ IsWritten t.write u offset := by
  intro h
  obtain ⟨c, cs, htext, hdigit⟩ := h.exists_digit
  rw [write_eq, yearText] at htext
  split_ifs at htext with hbefore hwithin
  · cases htext
    exact absurd hdigit (by decide)
  · exact absurd ⟨Int.not_lt.mp hbefore, hwithin⟩ hyear
  · cases htext
    exact absurd hdigit (by decide)

theorem length_afterYear (h : t.Real) : t.afterYear.length = 16 := by
  obtain ⟨hmonth, hday, hhour, hminute, hsecond⟩ := h.lt_hundred
  have htwo {n : Nat} (hn : n < 10 ^ 2) : (padded 2 n).length = 2 :=
    (isDigits_padded (by decide) hn).1
  simp only [afterYear, List.length_cons, List.length_append, List.length_nil, htwo hmonth,
    htwo hday, htwo hhour, htwo hminute, htwo hsecond]

theorem write_inj (h : t.Real) (h' : t'.Real) : t.write = t'.write ↔ t = t' := by
  refine ⟨fun heq => ?_, fun heq => heq ▸ rfl⟩
  obtain ⟨hmonth, hday, hhour, hminute, hsecond⟩ := h.lt_hundred
  obtain ⟨hmonth', hday', hhour', hminute', hsecond'⟩ := h'.lt_hundred
  -- The year has no fixed width, and what follows it has one.
  rw [write_eq, write_eq] at heq
  obtain ⟨hyear, hrest⟩ := List.append_inj' heq
    ((length_afterYear h).trans (length_afterYear h').symm)
  have htwo : 0 < 2 := by decide
  simp only [afterYear, List.cons.injEq, true_and, padded_append_inj htwo hmonth hmonth',
    padded_append_inj htwo hday hday', padded_append_inj htwo hhour hhour',
    padded_append_inj htwo hminute hminute', padded_append_inj htwo hsecond hsecond',
    and_true] at hrest
  rw [yearText_inj] at hyear
  obtain ⟨⟨year, month, day⟩, minute, second⟩ := t
  obtain ⟨⟨year', month', day'⟩, minute', second'⟩ := t'
  simp only [Timestamp.mk.injEq, Date.mk.injEq] at hyear hrest ⊢
  omega

end Write

/-! ## The normal form -/

theorem normalText_of_ofText? {s : String} {t : Timestamp} (h : ofText? s = some t) :
    normalText s = .ofList t.write := by
  rw [normalText, h]

theorem normalText_of_none {s : String} (h : ofText? s = none) : normalText s = s := by
  rw [normalText, h]

theorem normalText_write {t : Timestamp} (h : t.Real) :
    normalText (.ofList t.write) = .ofList t.write := by
  by_cases hyear : 0 ≤ t.date.year ∧ t.date.year ≤ 9999
  · have hread : ofText? (.ofList t.write) = some t := by
      refine ofText?_eq_some_iff.mpr ⟨t, 0, ?_, toUtc_zero h⟩
      rw [String.toList_ofList]
      exact isWritten_write h hyear
    exact normalText_of_ofText? hread
  · refine normalText_of_none (Option.eq_none_iff_forall_ne_some.mpr fun u hu => ?_)
    obtain ⟨v, offset, hwritten, -⟩ := ofText?_eq_some_iff.mp hu
    rw [String.toList_ofList] at hwritten
    exact not_isWritten_write hyear hwritten

theorem normalText_normalText (s : String) : normalText (normalText s) = normalText s := by
  cases hs : ofText? s with
  | none => rw [normalText_of_none hs, normalText_of_none hs]
  | some t =>
      rw [normalText_of_ofText? hs]
      exact normalText_write (real_of_ofText? hs)

/-- Two timestamps are shown alike if they denote one instant, and only then. -/
theorem normalText_eq_iff {s s' : String} {i i' : Instant} (h : Denotes s i)
    (h' : Denotes s' i') : normalText s = normalText s' ↔ i = i' := by
  obtain ⟨t, hread, hreal, rfl⟩ := h.ofText?
  obtain ⟨t', hread', hreal', rfl⟩ := h'.ofText?
  rw [normalText_of_ofText? hread, normalText_of_ofText? hread', String.ofList_inj,
    write_inj hreal hreal', instant_inj hreal hreal']

/-- Lower case stays lower case, and is the same timestamp. -/
theorem lower_normalText_lower {s : String} (h : normalText s = s) :
    Text.lower (normalText (Text.lower s)) = Text.lower s := by
  cases hs : ofText? s with
  | none =>
      rw [normalText_of_none (by rw [ofText?_lower, hs]), Text.lower_lower]
  | some t =>
      rw [normalText_of_ofText? (by rw [ofText?_lower, hs]), ← normalText_of_ofText? hs, h]

end Timestamp

namespace Column

open Timestamp

variable {c : Column}

/-- What a timestamp column shows is a normal form: shown again it stays the same, and all texts
that denote one instant are shown alike. A column that joins parts of a list shows texts as they
are, and no timestamp column of a registry does so. -/
theorem timestamps_shown (hkind : c.kind = .timestamp) :
    (∀ s : String, c.display.cellText c.kind (.str (c.display.cellText c.kind (.str s))) =
      c.display.cellText c.kind (.str s)) ∧
    ((∀ path, c.display ≠ .join path) →
      ∀ (s s' : String) (i : Instant), Denotes s i → Denotes s' i →
        c.display.cellText c.kind (.str s) = c.display.cellText c.kind (.str s')) ∧
    ∀ overrides r kind name, Registry.withOverrides overrides = .ok r →
      (r.entity kind).column? name = some c → ∀ path, c.display ≠ .join path := by
  have hraw (s : String) : DisplayRule.cellText .timestamp .raw (.str s) = normalText s := rfl
  have hlower (s : String) :
      DisplayRule.cellText .timestamp .lowercase (.str s) = Text.lower (normalText s) := rfl
  have hjoined (s path : String) :
      DisplayRule.cellText .timestamp (.join path) (.str s) = s := by
    simp only [DisplayRule.cellText, Json.joinedText, Json.plainText]
  rw [hkind]
  refine ⟨fun s => ?_, fun hjoin s s' i hs hs' => ?_, fun overrides r kind name hr hc path => ?_⟩
  · cases c.display with
    | raw => rw [hraw, hraw, normalText_normalText]
    | lowercase => rw [hlower, hlower, lower_normalText_lower (normalText_normalText s)]
    | join path => rw [hjoined, hjoined]
  · have halike : normalText s = normalText s' := (normalText_eq_iff hs hs').mpr rfl
    cases hdisplay : c.display with
    | raw => rw [hraw, hraw, halike]
    | lowercase => rw [hlower, hlower, halike]
    | join path => exact absurd hdisplay (hjoin path)
  · obtain ⟨declared, hdeclared, hgives⟩ := Entity.exists_declared hr hc
    have hraw : ∀ kind, ∀ d ∈ (Catalogue.declaration kind).columns,
        d.kind = .timestamp → d.display = .raw := by
      intro kind
      cases kind <;> decide
    rw [hgives.display, hraw kind declared hdeclared (hgives.kind.symm.trans hkind)]
    exact DisplayRule.noConfusion

/-- A leap second before the end of a year is one after it in UTC, at two offsets. The year it is
shown with has five digits. -/
theorem timestamps_shown_leapSecond :
    let s := "9999-12-31 23:59:60.25-00:01"
    let s' := "9999-12-31t22:29:60\u221201:31"
    let i : Instant := ⟨1440 * Date.number ⟨10000, 1, 1⟩, 60⟩
    Denotes s i ∧ Denotes s' i ∧
    ∃ r c, Registry.withOverrides (fun _ => none) = .ok r ∧
      (r.entity .snapshot).column? (.ofText "created") = some c ∧ c.kind = .timestamp ∧
      c.display.cellText c.kind (.str s) = c.display.cellText c.kind (.str s') ∧
      c.display.cellText c.kind (.str (c.display.cellText c.kind (.str s))) =
        c.display.cellText c.kind (.str s) ∧
      c.display.cellText c.kind (.str s) = "+10000-01-01T00:00:60Z" := by
  intro s s' i
  have hs : Denotes s i :=
    ⟨⟨⟨9999, 12, 31⟩, 1439, 60⟩, -1, local?_eq_some_iff.mp (by decide), by decide⟩
  have hs' : Denotes s' i :=
    ⟨⟨⟨9999, 12, 31⟩, 1349, 60⟩, -91, local?_eq_some_iff.mp (by decide), by decide⟩
  obtain ⟨r, hr⟩ := Registry.exists_withOverrides_none
  have hbuilt := Entity.builtFrom_of_ofDeclaration (Registry.ofDeclaration_entity hr .snapshot)
  let declared : ColumnDeclaration :=
    ⟨"created", "snapshotCreationTimestamp", .timestamp, "Created", .raw⟩
  have hdeclared : declared ∈ (Catalogue.declaration .snapshot).columns := by
    simp [declared, Catalogue.declaration, Catalogue.snapshot, Catalogue.snapshotColumns]
  obtain ⟨c, hc, hgives⟩ := hbuilt.exists_column? hdeclared
  obtain ⟨hagain, halike, hregistered⟩ := timestamps_shown hgives.kind
  refine ⟨hs, hs', r, c, hr, hc, hgives.kind,
    halike (hregistered _ r _ _ hr hc) s s' i hs hs', hagain s, ?_⟩
  rw [hgives.display, hgives.kind]
  decide

end Column

end RecordListing
