import Mathlib
import RecordListing.Proofs.LowerCase
import RecordListing.Proofs.ShortestForm
import RecordListing.Timestamp

namespace RecordListing.Timestamp

/-!
# Texts of timestamps

What a timestamp is read from: its numerals have a fixed width, a fraction of a second may
follow, and an offset from UTC ends it. All its characters are in ASCII, a minus sign apart, and
it is the same in lower case.
-/

open Spelling

/-! ## Parts of a text -/

/-- Decimal digits of a fixed width. -/
def IsDigits (width : Nat) (cs : List Char) (n : Nat) : Prop :=
  cs.length = width ∧ (∀ c ∈ cs, c.isDigit) ∧ digitsValue cs = n

/-- Nothing, or a point and at least one digit. -/
def IsFractionOfSecond (cs : List Char) : Prop :=
  cs = [] ∨ ∃ digits, cs = '.' :: digits ∧ digits ≠ [] ∧ ∀ c ∈ digits, c.isDigit

/-- A mark for UTC, or hours and minutes east or west of it. -/
inductive IsOffset : List Char → Int → Prop
  | utc {c : Char} (hmark : c = 'Z' ∨ c = 'z') : IsOffset [c] 0
  | east {hours minutes : List Char} {h m : Nat} (hhours : IsDigits 2 hours h)
      (hminutes : IsDigits 2 minutes m) (hh : h ≤ 23) (hm : m ≤ 59) :
      IsOffset ('+' :: (hours ++ ':' :: minutes)) (h * 60 + m)
  | west {sign : Char} {hours minutes : List Char} {h m : Nat}
      (hsign : sign = '-' ∨ sign = '\u2212') (hhours : IsDigits 2 hours h)
      (hminutes : IsDigits 2 minutes m) (hh : h ≤ 23) (hm : m ≤ 59) :
      IsOffset (sign :: (hours ++ ':' :: minutes)) (-(h * 60 + m))

/-- Year, month and day of a real date. -/
inductive IsDate : List Char → Date → Prop
  | intro {year month day : List Char} {y m d : Nat} (hyear : IsDigits 4 year y)
      (hmonth : IsDigits 2 month m) (hday : IsDigits 2 day d) (hreal : Date.Real ⟨y, m, d⟩) :
      IsDate (year ++ '-' :: (month ++ '-' :: day)) ⟨y, m, d⟩

/-- The minute of the day and the second, which may be the sixtieth. -/
inductive IsTimeOfDay : List Char → Nat → Nat → Prop
  | intro {hour minute second : List Char} {h m s : Nat} (hhour : IsDigits 2 hour h)
      (hminute : IsDigits 2 minute m) (hsecond : IsDigits 2 second s)
      (hh : h ≤ 23) (hm : m ≤ 59) (hs : s ≤ 60) :
      IsTimeOfDay (hour ++ ':' :: (minute ++ ':' :: second)) (h * 60 + m) s

/-- A date and a time of day with a separator between them, and an offset. -/
inductive IsWritten : List Char → Timestamp → Int → Prop
  | intro {date time fraction zone : List Char} {sep : Char} {d : Date} {minute second : Nat}
      {offset : Int} (hdate : IsDate date d) (hsep : sep = 'T' ∨ sep = 't' ∨ sep = ' ')
      (htime : IsTimeOfDay time minute second) (hfraction : IsFractionOfSecond fraction)
      (hzone : IsOffset zone offset) :
      IsWritten (date ++ sep :: (time ++ (fraction ++ zone))) ⟨d, minute, second⟩ offset

/-! ## Reading -/

theorem digits?_eq_some_iff {width : Nat} {cs rest : List Char} {n : Nat} :
    digits? width cs = some (n, rest) ↔ ∃ ds, IsDigits width ds n ∧ cs = ds ++ rest := by
  unfold digits? IsDigits
  simp only [naturalOf_eq_digitsValue, List.all_eq_true]
  constructor
  · intro h
    split at h
    · rename_i hdigits
      cases h
      exact ⟨cs.take width, ⟨hdigits.1, hdigits.2, rfl⟩, (List.take_append_drop width cs).symm⟩
    · cases h
  · rintro ⟨ds, ⟨rfl, hdigits, rfl⟩, rfl⟩
    rw [List.take_left, List.drop_left, if_pos ⟨rfl, hdigits⟩]

theorem skip?_eq_some_iff {allowed : Char → Bool} {cs rest : List Char} :
    skip? allowed cs = some rest ↔ ∃ c, allowed c = true ∧ cs = c :: rest := by
  cases cs with
  | nil => simp [skip?]
  | cons c cs =>
      by_cases hc : allowed c = true <;> simp [skip?, hc]

theorem skipFraction?_append {fraction rest : List Char} (h : IsFractionOfSecond fraction)
    (hrest : ∀ c ∈ rest.head?, c.isDigit = false ∧ c ≠ '.') :
    skipFraction? (fraction ++ rest) = some rest := by
  rcases h with rfl | ⟨digits, rfl, hne, hdigits⟩
  · rw [List.nil_append]
    unfold skipFraction?
    split
    · exact absurd rfl (hrest '.' rfl).2
    · rfl
  · obtain ⟨c, ds, rfl⟩ := List.exists_cons_of_ne_nil hne
    have hdrop := (Binary64.Extended.takeWhile_digits hdigits fun c hc => (hrest c hc).1).2
    have hfirst := hdigits c List.mem_cons_self
    rw [List.cons_append] at hdrop
    simp [skipFraction?, hfirst, hdrop]

theorem exists_fraction {cs rest : List Char} (h : skipFraction? cs = some rest) :
    ∃ fraction, IsFractionOfSecond fraction ∧ cs = fraction ++ rest := by
  unfold skipFraction? at h
  split at h
  · rename_i cs
    split at h
    · rename_i hfirst
      cases h
      refine ⟨'.' :: cs.takeWhile Char.isDigit, .inr ⟨_, rfl, ?_, ?_⟩, ?_⟩
      · intro hnil
        cases cs with
        | nil => cases hfirst
        | cons c cs => simp_all
      · exact fun c hc => List.mem_takeWhile_imp hc
      · simp
    · cases h
  · cases h
    exact ⟨[], .inl rfl, rfl⟩

/-- What follows the sign of an offset. -/
def away? (west : Bool) (cs : List Char) : Option Int :=
  (digits? 2 cs).bind fun hours => (skip? (· = ':') hours.2).bind fun cs =>
    (digits? 2 cs).bind fun minutes =>
      if minutes.2.isEmpty ∧ hours.1 ≤ 23 ∧ minutes.1 ≤ 59 then
        some (if west then -((hours.1 : Int) * 60 + minutes.1) else hours.1 * 60 + minutes.1)
      else none

theorem offset?_cons (sign : Char) (cs : List Char) : offset? (sign :: cs) =
    if sign :: cs = ['Z'] ∨ sign :: cs = ['z'] then some 0
    else if sign = '+' then away? false cs
    else if sign = '-' ∨ sign = '\u2212' then away? true cs else none := by
  unfold offset?
  dsimp only
  split_ifs <;> rfl

theorem away?_eq_some_iff {west : Bool} {cs : List Char} {offset : Int} :
    away? west cs = some offset ↔
      ∃ hours minutes h m, IsDigits 2 hours h ∧ IsDigits 2 minutes m ∧ h ≤ 23 ∧ m ≤ 59 ∧
        cs = hours ++ ':' :: minutes ∧
          offset = if west then -((h : Int) * 60 + m) else h * 60 + m := by
  simp only [away?, Option.bind_eq_some_iff, Prod.exists, digits?_eq_some_iff, skip?_eq_some_iff,
    decide_eq_true_eq]
  constructor
  · rintro ⟨h, _, ⟨hours, hhours, rfl⟩, _, ⟨_, rfl, rfl⟩, m, rest, ⟨minutes, hminutes, rfl⟩, hend⟩
    split at hend
    · rename_i hlimits
      obtain ⟨hrest, hh, hm⟩ := hlimits
      obtain rfl := List.isEmpty_iff.mp hrest
      cases hend
      exact ⟨hours, minutes, h, m, hhours, hminutes, hh, hm, by rw [List.append_nil], rfl⟩
    · cases hend
  · rintro ⟨hours, minutes, h, m, hhours, hminutes, hh, hm, rfl, rfl⟩
    refine ⟨h, _, ⟨hours, hhours, rfl⟩, minutes, ⟨':', rfl, rfl⟩, m, [],
      ⟨minutes, hminutes, (List.append_nil _).symm⟩, ?_⟩
    rw [if_pos ⟨rfl, hh, hm⟩]

theorem offset?_eq_some_iff {cs : List Char} {offset : Int} :
    offset? cs = some offset ↔ IsOffset cs offset := by
  constructor
  · intro h
    cases cs with
    | nil => cases h
    | cons sign cs =>
      rw [offset?_cons] at h
      split_ifs at h with hmark heast hwest
      · cases h
        rcases hmark with hmark | hmark <;> cases hmark
        · exact .utc (.inl rfl)
        · exact .utc (.inr rfl)
      · subst heast
        obtain ⟨hours, minutes, n, m, hhours, hminutes, hh, hm, rfl, rfl⟩ := away?_eq_some_iff.mp h
        exact .east hhours hminutes hh hm
      · obtain ⟨hours, minutes, n, m, hhours, hminutes, hh, hm, rfl, rfl⟩ := away?_eq_some_iff.mp h
        exact .west hwest hhours hminutes hh hm
  · intro h
    cases h with
    | utc hmark =>
        rcases hmark with rfl | rfl <;> rfl
    | @east hours minutes n m hhours hminutes hh hm =>
        rw [offset?_cons, if_neg (by simp), if_pos rfl]
        exact away?_eq_some_iff.mpr ⟨hours, minutes, n, m, hhours, hminutes, hh, hm, rfl, rfl⟩
    | @west sign hours minutes n m hsign hhours hminutes hh hm =>
        have hplus : sign ≠ '+' := by
          rintro rfl
          exact absurd hsign (by decide)
        rw [offset?_cons, if_neg (by simp), if_neg hplus, if_pos hsign]
        exact away?_eq_some_iff.mpr ⟨hours, minutes, n, m, hhours, hminutes, hh, hm, rfl, rfl⟩

theorem head_of_isOffset {cs : List Char} {offset : Int} (h : IsOffset cs offset) :
    ∀ c ∈ cs.head?, c.isDigit = false ∧ c ≠ '.' := by
  cases h with
  | utc hmark =>
      rintro c ⟨⟩
      rcases hmark with rfl | rfl <;> decide
  | east =>
      rintro c ⟨⟩
      decide
  | west hsign =>
      rintro c ⟨⟩
      rcases hsign with rfl | rfl <;> decide

theorem local?_eq_some_iff {cs : List Char} {t : Timestamp} {offset : Int} :
    local? cs = some (t, offset) ↔ IsWritten cs t offset := by
  simp only [local?, Option.bind_eq_bind, Option.bind_eq_some_iff, Prod.exists,
    digits?_eq_some_iff, skip?_eq_some_iff, offset?_eq_some_iff, decide_eq_true_eq,
    Bool.or_eq_true, or_assoc]
  constructor
  · rintro ⟨y, _, ⟨year, hyear, rfl⟩, _, ⟨_, rfl, rfl⟩, mo, _, ⟨month, hmonth, rfl⟩, _,
      ⟨_, rfl, rfl⟩, d, _, ⟨day, hday, rfl⟩, _, ⟨sep, hsep, rfl⟩, h, _, ⟨hour, hhour, rfl⟩, _,
      ⟨_, rfl, rfl⟩, mi, _, ⟨minute, hminute, rfl⟩, _, ⟨_, rfl, rfl⟩, s, _,
      ⟨second, hsecond, rfl⟩, zone, hrest, offset', hzone, hend⟩
    obtain ⟨fraction, hfraction, rfl⟩ := exists_fraction hrest
    split at hend
    · rename_i hlimits
      obtain ⟨hreal, hh, hmi, hs⟩ := hlimits
      cases hend
      have hwritten := IsWritten.intro (.intro hyear hmonth hday hreal) hsep
        (.intro hhour hminute hsecond hh hmi hs) hfraction hzone
      simpa only [List.append_assoc, List.cons_append] using hwritten
    · cases hend
  · rintro ⟨⟨hyear, hmonth, hday, hreal⟩, hsep, ⟨hhour, hminute, hsecond, hh, hmi, hs⟩, hfraction,
      hzone⟩
    simp only [List.append_assoc, List.cons_append]
    refine ⟨_, _, ⟨_, hyear, rfl⟩, _, ⟨_, rfl, rfl⟩, _, _, ⟨_, hmonth, rfl⟩, _, ⟨_, rfl, rfl⟩,
      _, _, ⟨_, hday, rfl⟩, _, ⟨_, hsep, rfl⟩, _, _, ⟨_, hhour, rfl⟩, _, ⟨_, rfl, rfl⟩,
      _, _, ⟨_, hminute, rfl⟩, _, ⟨_, rfl, rfl⟩, _, _, ⟨_, hsecond, rfl⟩,
      _, skipFraction?_append hfraction (head_of_isOffset hzone), _, hzone, ?_⟩
    rw [if_pos ⟨hreal, hh, hmi, hs⟩]
    rfl

/-! ## Characters -/

theorem IsWritten.exists_digit {cs : List Char} {t : Timestamp} {offset : Int}
    (h : IsWritten cs t offset) : ∃ c rest, cs = c :: rest ∧ c.isDigit := by
  obtain ⟨⟨⟨hlength, hdigits, -⟩⟩⟩ := h
  obtain ⟨c, year, rfl⟩ := List.exists_cons_of_length_eq_add_one hlength
  exact ⟨c, _, rfl, hdigits c List.mem_cons_self⟩

/-- What a timestamp is read from is in ASCII, a minus sign apart. -/
def IsPlain (cs : List Char) : Prop := ∀ c ∈ cs, c.toNat < 0x80 ∨ c = '\u2212'

theorem isPlain_append {cs ds : List Char} : IsPlain (cs ++ ds) ↔ IsPlain cs ∧ IsPlain ds :=
  List.forall_mem_append

theorem isPlain_cons {c : Char} {cs : List Char} :
    IsPlain (c :: cs) ↔ (c.toNat < 0x80 ∨ c = '\u2212') ∧ IsPlain cs :=
  List.forall_mem_cons

theorem isPlain_of_isDigit {cs : List Char} (h : ∀ c ∈ cs, c.isDigit) : IsPlain cs :=
  fun c hc => .inl (Text.ascii_of_isDigit (h c hc)).1

theorem IsPlain.ne {cs : List Char} (h : IsPlain cs) {c d : Char} (hc : c ∈ cs)
    (hd : ¬ (d.toNat < 0x80 ∨ d = '\u2212')) : c ≠ d := by
  rintro rfl
  exact hd (h _ hc)

theorem isPlain_of_isOffset {cs : List Char} {offset : Int} (h : IsOffset cs offset) :
    IsPlain cs := by
  have hclock {hours minutes : List Char} {n m : Nat} (hhours : IsDigits 2 hours n)
      (hminutes : IsDigits 2 minutes m) : IsPlain (hours ++ ':' :: minutes) := by
    rw [isPlain_append, isPlain_cons]
    exact ⟨isPlain_of_isDigit hhours.2.1, by decide, isPlain_of_isDigit hminutes.2.1⟩
  cases h with
  | utc hmark => rcases hmark with rfl | rfl <;> simp [IsPlain]
  | east hhours hminutes => exact isPlain_cons.mpr ⟨by decide, hclock hhours hminutes⟩
  | west hsign hhours hminutes =>
      refine isPlain_cons.mpr ⟨?_, hclock hhours hminutes⟩
      rcases hsign with rfl | rfl <;> decide

theorem isPlain_of_isFractionOfSecond {cs : List Char} (h : IsFractionOfSecond cs) :
    IsPlain cs := by
  rcases h with rfl | ⟨digits, rfl, -, hdigits⟩
  · exact fun c hc => nomatch hc
  · exact isPlain_cons.mpr ⟨by decide, isPlain_of_isDigit hdigits⟩

theorem isPlain_of_isDate {cs : List Char} {d : Date} (h : IsDate cs d) : IsPlain cs := by
  obtain ⟨hyear, hmonth, hday, -⟩ := h
  simp only [isPlain_append, isPlain_cons]
  exact ⟨isPlain_of_isDigit hyear.2.1, by decide, isPlain_of_isDigit hmonth.2.1, by decide,
    isPlain_of_isDigit hday.2.1⟩

theorem isPlain_of_isTimeOfDay {cs : List Char} {minute second : Nat}
    (h : IsTimeOfDay cs minute second) : IsPlain cs := by
  obtain ⟨hhour, hminute, hsecond, -, -, -⟩ := h
  simp only [isPlain_append, isPlain_cons]
  exact ⟨isPlain_of_isDigit hhour.2.1, by decide, isPlain_of_isDigit hminute.2.1, by decide,
    isPlain_of_isDigit hsecond.2.1⟩

theorem IsWritten.isPlain {cs : List Char} {t : Timestamp} {offset : Int}
    (h : IsWritten cs t offset) : IsPlain cs := by
  obtain ⟨hdate, hsep, htime, hfraction, hzone⟩ := h
  simp only [isPlain_append, isPlain_cons]
  refine ⟨isPlain_of_isDate hdate, ?_, isPlain_of_isTimeOfDay htime,
    isPlain_of_isFractionOfSecond hfraction, isPlain_of_isOffset hzone⟩
  rcases hsep with rfl | rfl | rfl <;> decide

/-! ## Letter case -/

open Text

theorem digits?_lower (width : Nat) (cs : List Char) : digits? width (cs.map lowerChar) =
    (digits? width cs).map fun p => (p.1, p.2.map lowerChar) := by
  have hall : ((cs.take width).map lowerChar).all Char.isDigit =
      (cs.take width).all Char.isDigit := by
    rw [List.all_map]
    exact congrArg (List.all _) (funext isDigit_lowerChar)
  unfold digits?
  dsimp only
  rw [← List.map_take, List.length_map, hall]
  split
  · rename_i hdigits
    have hself : (cs.take width).map lowerChar = cs.take width := by
      rw [List.map_congr_left fun c hc =>
        lowerChar_of_isDigit (List.all_eq_true.mp hdigits.2 c hc), List.map_id']
    rw [hself, Option.map_some, List.map_drop]
  · rfl

theorem skip?_lower {allowed : Char → Bool} (h : ∀ c, allowed (lowerChar c) = allowed c)
    (cs : List Char) :
    skip? allowed (cs.map lowerChar) = (skip? allowed cs).map (List.map lowerChar) := by
  cases cs with
  | nil => rfl
  | cons c cs =>
      rw [List.map_cons, skip?, skip?, h]
      split <;> rfl

theorem skip?_mark_lower {mark : Char} (hascii : mark.toNat < 0x80) (hletter : mark.isAlpha = false)
    (cs : List Char) : skip? (· = mark) (cs.map lowerChar) =
      (skip? (· = mark) cs).map (List.map lowerChar) :=
  skip?_lower (fun _ => decide_eq_decide.mpr (lowerChar_eq_iff hascii hletter)) cs

theorem skip?_separator_lower (cs : List Char) :
    skip? (fun c => c = 'T' || c = 't' || c = ' ') (cs.map lowerChar) =
      (skip? (fun c => c = 'T' || c = 't' || c = ' ') cs).map (List.map lowerChar) := by
  refine skip?_lower (fun c => ?_) cs
  have hcapital : lowerChar c ≠ 'T' := fun h =>
    absurd (h ▸ isUpper_lowerChar c) (by decide)
  have hsmall : lowerChar c = 't' ↔ c = 'T' ∨ c = 't' :=
    lowerChar_eq_toLower_iff (show 'T'.isUpper from rfl) (by decide)
  have hblank : lowerChar c = ' ' ↔ c = ' ' := lowerChar_eq_iff (by decide) rfl
  simp [hcapital, hsmall, hblank]

theorem skipFraction?_of_ne {cs : List Char} (h : ∀ c ∈ cs.head?, c ≠ '.') :
    skipFraction? cs = some cs := by
  unfold skipFraction?
  split
  · exact absurd rfl (h '.' rfl)
  · rfl

theorem skipFraction?_lower (cs : List Char) :
    skipFraction? (cs.map lowerChar) = (skipFraction? cs).map (List.map lowerChar) := by
  by_cases hpoint : ∀ c ∈ cs.head?, c ≠ '.'
  · have hpoint' : ∀ c ∈ (cs.map lowerChar).head?, c ≠ '.' := by
      simp only [List.head?_map, Option.mem_map, forall_exists_index, and_imp]
      rintro _ c hc rfl hdot
      exact hpoint c hc ((lowerChar_eq_iff (by decide) rfl).mp hdot)
    rw [skipFraction?_of_ne hpoint, skipFraction?_of_ne hpoint', Option.map_some]
  · cases cs with
    | nil => exact absurd (fun c hc => nomatch hc) hpoint
    | cons c cs =>
        obtain rfl : c = '.' := by simpa using hpoint
        have hself : lowerChar '.' = '.' := rfl
        simp only [List.map_cons, hself, skipFraction?, List.head?_map, Option.any_map,
          List.dropWhile_map, Function.comp_def, isDigit_lowerChar]
        split <;> rfl

theorem away?_lower (west : Bool) (cs : List Char) :
    away? west (cs.map lowerChar) = away? west cs := by
  simp only [away?, digits?_lower, skip?_mark_lower (show ':'.toNat < 0x80 by decide) rfl,
    Option.bind_map, Function.comp_def, List.isEmpty_map]

theorem offset?_lower (cs : List Char) : offset? (cs.map lowerChar) = offset? cs := by
  cases cs with
  | nil => rfl
  | cons sign cs =>
      have hcapital : lowerChar sign ≠ 'Z' := fun h =>
        absurd (h ▸ isUpper_lowerChar sign) (by decide)
      have hsmall : lowerChar sign = 'z' ↔ sign = 'Z' ∨ sign = 'z' :=
        lowerChar_eq_toLower_iff (show 'Z'.isUpper from rfl) (by decide)
      have heast : lowerChar sign = '+' ↔ sign = '+' := lowerChar_eq_iff (by decide) rfl
      have hwest : lowerChar sign = '-' ↔ sign = '-' := lowerChar_eq_iff (by decide) rfl
      have hminus : lowerChar sign = '\u2212' ↔ sign = '\u2212' := by
        refine ⟨fun h => eq_of_lowerChar_outside h (.inr rfl), ?_⟩
        rintro rfl
        decide
      have hutc : lowerChar sign :: cs.map lowerChar = ['Z'] ∨
          lowerChar sign :: cs.map lowerChar = ['z'] ↔ sign :: cs = ['Z'] ∨ sign :: cs = ['z'] := by
        simp [hcapital, hsmall, or_and_right]
      simp only [List.map_cons, offset?_cons, hutc, heast, hwest, hminus, away?_lower]

theorem local?_lower (cs : List Char) : local? (cs.map lowerChar) = local? cs := by
  simp only [local?, digits?_lower, skip?_mark_lower (show '-'.toNat < 0x80 by decide) rfl,
    skip?_mark_lower (show ':'.toNat < 0x80 by decide) rfl, skip?_separator_lower,
    skipFraction?_lower, offset?_lower, Option.bind_eq_bind, Option.bind_map, Function.comp_def]

/-- Letter case does not matter. -/
theorem ofText?_lower (s : String) : ofText? (lower s) = ofText? s := by
  have hnone {cs : List Char} (hcs : ¬ IsPlain cs) : local? cs = none :=
    Option.eq_none_iff_forall_ne_some.mpr fun _ h => hcs (local?_eq_some_iff.mp h).isPlain
  have hlocal : local? (lowerFrom [] s.toList) = local? s.toList := by
    by_cases hsimple : ∀ c ∈ s.toList, c ≠ 'Σ' ∧ c ≠ 'İ'
    · rw [lowerFrom_eq_map hsimple, local?_lower]
    -- No timestamp has these characters, nor what becomes of them.
    · rw [hnone, hnone]
      · exact fun h => hsimple fun c hc => ⟨h.ne hc (by decide), h.ne hc (by decide)⟩
      · exact fun h => hsimple <| simple_of_lowerFrom fun d hd =>
          ⟨h.ne hd (by decide), h.ne hd (by decide), h.ne hd (by decide)⟩
  rw [ofText?, ofText?, lower, String.toList_ofList, hlocal]

end RecordListing.Timestamp
