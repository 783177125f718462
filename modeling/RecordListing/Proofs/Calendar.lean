import Mathlib
import RecordListing.Timestamp

namespace RecordListing.Date

/-!
# The calendar

Every real date has a number, counted in days. The numbers are in the order of the dates, year
before month before day, and the next and the previous date are those with the next and the
previous number.
-/

/-! ## Numbers of dates -/

def yearLength (year : Int) : Nat := if isLeap year then 366 else 365

/-- The days between the beginning of the year 1 and that of another year. -/
def daysBeforeYear (year : Int) : Int :=
  365 * (year - 1) + (year - 1) / 4 - (year - 1) / 100 + (year - 1) / 400

/-- The days of a year in the months before one. -/
def daysBeforeMonth (year : Int) (month : Nat) : Nat :=
  ((List.range' 1 (month - 1)).map (monthLength year)).sum

/-- The number of a date. The first of January of the year 1 has the number 1. -/
def number (d : Date) : Int :=
  daysBeforeYear d.year + daysBeforeMonth d.year d.month + d.day

example : number ⟨1970, 1, 1⟩ = 719163 := by decide

theorem daysBeforeYear_succ (year : Int) :
    daysBeforeYear (year + 1) = daysBeforeYear year + yearLength year := by
  unfold daysBeforeYear yearLength isLeap
  simp only [decide_eq_true_eq]
  split_ifs <;> omega

theorem daysBeforeYear_mono {year year' : Int} (h : year ≤ year') :
    daysBeforeYear year ≤ daysBeforeYear year' := by
  unfold daysBeforeYear
  omega

theorem daysBeforeMonth_succ (year : Int) {month : Nat} (h : 1 ≤ month) :
    daysBeforeMonth year (month + 1) = daysBeforeMonth year month + monthLength year month := by
  obtain ⟨m, rfl⟩ := Nat.exists_eq_add_of_le' h
  simp [daysBeforeMonth, List.range'_concat, Nat.add_comm]

theorem daysBeforeMonth_mono (year : Int) {month month' : Nat} (hmonth : 1 ≤ month)
    (h : month ≤ month') : daysBeforeMonth year month ≤ daysBeforeMonth year month' := by
  induction month', h using Nat.le_induction with
  | base => exact Nat.le_refl _
  | succ n hn ih =>
      rw [daysBeforeMonth_succ year (hmonth.trans hn)]
      omega

/-- The months fill the year. -/
theorem daysBeforeMonth_end (year : Int) : daysBeforeMonth year 13 = yearLength year := by
  cases hleap : isLeap year <;>
    simp [daysBeforeMonth, yearLength, monthLength, List.range', hleap]

theorem daysBeforeYear_le {year year' : Int} (h : year < year') :
    daysBeforeYear year + yearLength year ≤ daysBeforeYear year' := by
  rw [← daysBeforeYear_succ]
  exact daysBeforeYear_mono h

theorem daysBeforeMonth_le (year : Int) {month month' : Nat} (hmonth : 1 ≤ month)
    (h : month < month') :
    daysBeforeMonth year month + monthLength year month ≤ daysBeforeMonth year month' := by
  rw [← daysBeforeMonth_succ year hmonth]
  exact daysBeforeMonth_mono year (by omega) h

/-- A real date lies within its year. -/
theorem Real.dayOfYear_le {d : Date} (h : d.Real) :
    daysBeforeMonth d.year d.month + d.day ≤ yearLength d.year := by
  obtain ⟨hfirst, hlast, -, hday⟩ := h
  have hmonth := daysBeforeMonth_le d.year hfirst (show d.month < 13 by omega)
  rw [daysBeforeMonth_end] at hmonth
  omega

/-! ## The order of dates -/

/-- The first of year, month and day in which two dates differ is less. -/
def Before (d d' : Date) : Prop :=
  d.year < d'.year ∨ d.year = d'.year ∧
    (d.month < d'.month ∨ d.month = d'.month ∧ d.day < d'.day)

theorem before_trichotomy (d d' : Date) : d.Before d' ∨ d = d' ∨ d'.Before d := by
  have hext : d = d' ↔ d.year = d'.year ∧ d.month = d'.month ∧ d.day = d'.day := by
    cases d
    cases d'
    simp
  rw [hext]
  unfold Before
  omega

theorem number_lt_of_before {d d' : Date} (h : d.Real) (h' : d'.Real) (hbefore : d.Before d') :
    d.number < d'.number := by
  have hday := h.dayOfYear_le
  obtain ⟨hfirst, -, -, hlast⟩ := h
  obtain ⟨-, -, hday', -⟩ := h'
  unfold number
  rcases hbefore with hyear | ⟨hyear, hmonth | ⟨hmonth, hless⟩⟩
  · have hyears := daysBeforeYear_le hyear
    omega
  · have hmonths := daysBeforeMonth_le d.year hfirst hmonth
    rw [← hyear]
    omega
  · rw [← hyear, ← hmonth]
    omega

theorem number_lt_iff {d d' : Date} (h : d.Real) (h' : d'.Real) :
    d.number < d'.number ↔ d.Before d' := by
  refine ⟨fun hnumber => ?_, number_lt_of_before h h'⟩
  rcases before_trichotomy d d' with hbefore | rfl | hafter
  · exact hbefore
  · exact absurd hnumber (lt_irrefl _)
  · exact absurd hnumber (number_lt_of_before h' h hafter).asymm

theorem number_inj {d d' : Date} (h : d.Real) (h' : d'.Real) : d.number = d'.number ↔ d = d' := by
  refine ⟨fun hnumber => ?_, fun heq => heq ▸ rfl⟩
  rcases before_trichotomy d d' with hbefore | heq | hafter
  · exact absurd hnumber (number_lt_of_before h h' hbefore).ne
  · exact heq
  · exact absurd hnumber (number_lt_of_before h' h hafter).ne'

/-! ## Neighbouring dates -/

theorem monthLength_pos (year : Int) (month : Nat) : 0 < monthLength year month := by
  unfold monthLength
  split_ifs <;> decide

theorem monthLength_le (year : Int) (month : Nat) : monthLength year month ≤ 31 := by
  unfold monthLength
  split_ifs <;> decide

theorem real_next {d : Date} (h : d.Real) : d.next.Real := by
  obtain ⟨hfirst, hlast, hday, hlength⟩ := h
  unfold next
  split_ifs with hwithin hmonth
  · exact ⟨hfirst, hlast, by dsimp only; omega, hwithin⟩
  · exact ⟨by dsimp only; omega, hmonth, le_refl 1, monthLength_pos _ _⟩
  · exact ⟨le_refl 1, show 1 ≤ 12 by decide, le_refl 1, monthLength_pos _ _⟩

theorem number_next {d : Date} (h : d.Real) : d.next.number = d.number + 1 := by
  obtain ⟨hfirst, hlast, hday, hlength⟩ := h
  unfold next
  split_ifs with hwithin hmonth
  · simp only [number]
    omega
  · have hmonths := daysBeforeMonth_succ d.year hfirst
    simp only [number]
    omega
  · have hyears := daysBeforeYear_succ d.year
    have hmonths := daysBeforeMonth_succ d.year hfirst
    have hdecember : d.month = 12 := by omega
    rw [hdecember, daysBeforeMonth_end] at hmonths
    have hjanuary : daysBeforeMonth (d.year + 1) 1 = 0 := rfl
    simp only [number, hdecember] at hlength hwithin ⊢
    omega

theorem real_previous {d : Date} (h : d.Real) : d.previous.Real := by
  obtain ⟨hfirst, hlast, hday, hlength⟩ := h
  unfold previous
  split_ifs with hwithin hmonth
  · exact ⟨hfirst, hlast, by dsimp only; omega, by dsimp only; omega⟩
  · exact ⟨by dsimp only; omega, by dsimp only; omega, monthLength_pos _ _, le_refl _⟩
  · exact ⟨show 1 ≤ 12 by decide, le_refl 12, show 1 ≤ 31 by decide, le_refl 31⟩

theorem number_previous {d : Date} (h : d.Real) : d.previous.number = d.number - 1 := by
  obtain ⟨hfirst, hlast, hday, hlength⟩ := h
  unfold previous
  split_ifs with hwithin hmonth
  · simp only [number]
    omega
  · have hmonths := daysBeforeMonth_succ d.year (show 1 ≤ d.month - 1 by omega)
    rw [Nat.sub_add_cancel hfirst] at hmonths
    simp only [number]
    omega
  · have hyears := daysBeforeYear_succ (d.year - 1)
    have hmonths := daysBeforeMonth_succ (d.year - 1) (show 1 ≤ 12 by decide)
    have hdecember : monthLength (d.year - 1) 12 = 31 := rfl
    rw [daysBeforeMonth_end, hdecember] at hmonths
    have hjanuary : d.month = 1 := by omega
    have hnone : daysBeforeMonth d.year 1 = 0 := rfl
    rw [sub_add_cancel] at hyears
    simp only [number, hjanuary, hnone]
    omega

end RecordListing.Date
