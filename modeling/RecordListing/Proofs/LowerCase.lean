import Mathlib
import RecordListing.Text.Lowercase

namespace RecordListing.Text

/-!
# Lower case

Text in lower case is left as it is by lower-casing. It has no capital letter from A to Z, and
what is mapped into ASCII are these letters and the Kelvin sign. So an ASCII character that is no
letter comes only from itself.
-/

/-! ## The table -/

namespace CaseRun

/-- The table has this run for a character. -/
def Moves (r : CaseRun) (n : Nat) : Prop :=
  r.first ≤ n ∧ n ≤ r.last ∧ (n - r.first) % r.stride = 0

/-- The run does not lead to a character of another one. -/
def apart (r r' : CaseRun) : Bool :=
  let low := (r.first + r.shift).toNat
  let high := (r.last + r.shift).toNat
  high.blt r'.first || r'.last.blt low ||
    (r'.stride == 2 && (r.stride == 2 || low == high) && (low + r'.first) % 2 == 1)

/-- The runs lead to no character of the table, and neither to the dotted capital I nor to the
minus sign. -/
theorem apart_of_mem : ∀ r ∈ caseRuns,
    ∀ r' ∈ ⟨0x130, 0x130, 1, 0⟩ :: ⟨0x2212, 0x2212, 1, 0⟩ :: caseRuns, r.apart r' = true := by
  have hall : (caseRuns.all fun r =>
      (⟨0x130, 0x130, 1, 0⟩ :: ⟨0x2212, 0x2212, 1, 0⟩ :: caseRuns).all r.apart) = true := by
    decide +kernel
  simpa only [List.all_eq_true] using hall

/-- Where the runs lead to. -/
theorem shift_mem : ∀ r ∈ caseRuns, (r.first : Int) + r.shift = 0x6B ∧ r.last = r.first ∨
    0x80 ≤ (r.first : Int) + r.shift ∧ (r.last : Int) + r.shift < 0xD800 ∨
      0xE000 ≤ (r.first : Int) + r.shift ∧ (r.last : Int) + r.shift < 0x110000 := by
  decide +kernel

/-- Of the characters that the runs lead to only the small letter k is in ASCII. -/
theorem Moves.toNat_ofNat {r : CaseRun} {n : Nat} (h : r.Moves n) (hr : r ∈ caseRuns) :
    ((Char.ofNat (n + r.shift).toNat).toNat : Int) = n + r.shift ∧
      ((n : Int) + r.shift = 0x6B ∨ 0x80 ≤ (n : Int) + r.shift) := by
  obtain ⟨hfirst, hlast, -⟩ := h
  have hshift := shift_mem r hr
  have hvalid : (n + r.shift).toNat.isValidChar := by
    unfold Nat.isValidChar
    omega
  rw [Char.toNat_ofNat, if_pos hvalid]
  omega

theorem Moves.not_moves {r r' : CaseRun} {n : Nat} (h : r.Moves n) (hr : r ∈ caseRuns)
    (hr' : r' ∈ ⟨0x130, 0x130, 1, 0⟩ :: ⟨0x2212, 0x2212, 1, 0⟩ :: caseRuns) :
    ¬ r'.Moves (Char.ofNat (n + r.shift).toNat).toNat := by
  obtain ⟨hvalue, -⟩ := h.toNat_ofNat hr
  have hlow : 0 ≤ (r.first : Int) + r.shift := by
    have hshift := shift_mem r hr
    omega
  have hapart := apart_of_mem r hr r' hr'
  simp only [apart, Bool.or_eq_true, Bool.and_eq_true, Nat.blt_eq, beq_iff_eq] at hapart
  rintro ⟨hfirst', hlast', hstride'⟩
  obtain ⟨hfirst, hlast, hstride⟩ := h
  rcases hapart with (hbelow | habove) | ⟨⟨htwo', htwo | hone⟩, hodd⟩
  · omega
  · omega
  · rw [htwo] at hstride
    rw [htwo'] at hstride'
    omega
  · rw [htwo'] at hstride'
    omega

end CaseRun

/-- ASCII has its own mapping, the table has the others, and the rest is left as it is. -/
theorem lowerChar_cases (c : Char) :
    c.toNat < 0x80 ∧ lowerChar c = c.toLower ∨
      (∃ r ∈ caseRuns, r.Moves c.toNat ∧ lowerChar c = Char.ofNat (c.toNat + r.shift).toNat) ∨
        0x80 ≤ c.toNat ∧ lowerChar c = c ∧ ∀ r ∈ caseRuns, ¬ r.Moves c.toNat := by
  unfold lowerChar
  split
  · rename_i hascii
    exact .inl ⟨hascii, rfl⟩
  rename_i hascii
  split
  · rename_i r hr
    have hmoves := List.find?_some hr
    simp only [Bool.and_eq_true, decide_eq_true_eq, beq_iff_eq, and_assoc] at hmoves
    exact .inr (.inl ⟨r, List.mem_of_find?_eq_some hr, hmoves, rfl⟩)
  · rename_i hnone
    rw [List.find?_eq_none] at hnone
    simp only [Bool.and_eq_true, decide_eq_true_eq, beq_iff_eq, and_assoc] at hnone
    exact .inr (.inr ⟨Nat.le_of_not_lt hascii, rfl, hnone⟩)

/-! ## Single characters -/

theorem isUpper_eq_false_of_ascii {c : Char} (h : 0x80 ≤ c.toNat) : c.isUpper = false := by
  rw [Bool.eq_false_iff, ne_eq, Char.isUpper, decide_eq_true_eq]
  rintro ⟨-, hhigh⟩
  have hhigh' : c.toNat ≤ 0x5A := hhigh
  omega

theorem ascii_lowerChar {c : Char} (hascii : (lowerChar c).toNat < 0x80) :
    lowerChar c = 'k' ∨ c.toNat < 0x80 ∧ lowerChar c = c.toLower := by
  rcases lowerChar_cases c with hself | ⟨r, hr, hmoves, hto⟩ | ⟨hc, hsame, -⟩
  · exact .inr hself
  · obtain ⟨hvalue, hk | hbeyond⟩ := hmoves.toNat_ofNat hr
    · left
      rw [hto, hk]
      rfl
    · rw [hto] at hascii
      omega
  · rw [hsame] at hascii
    omega

theorem isUpper_lowerChar (c : Char) : (lowerChar c).isUpper = false := by
  by_cases hascii : (lowerChar c).toNat < 0x80
  · rcases ascii_lowerChar hascii with hk | ⟨-, hself⟩
    · rw [hk]
      rfl
    · rw [hself]
      exact c.isUpper_toLower_eq_false
  · exact isUpper_eq_false_of_ascii (Nat.le_of_not_lt hascii)

theorem lowerChar_of_ascii {c : Char} (hascii : c.toNat < 0x80) (hupper : c.isUpper = false) :
    lowerChar c = c := by
  rw [lowerChar, if_pos hascii]
  exact Char.toLower_eq_of_not_isUpper (by simp [hupper])

theorem ascii_toLower {c : Char} (h : c.toNat < 0x80) : c.toLower.toNat < 0x80 := by
  by_cases hupper : c.isUpper
  · have hlower : c.toLower.isLower := by
      rw [Char.isLower_toLower_eq_isAlpha, Char.isAlpha, hupper, Bool.true_or]
    simp only [Char.isLower, Bool.and_eq_true, decide_eq_true_eq] at hlower
    have hhigh : c.toLower.toNat ≤ 0x7A := hlower.2
    omega
  · rw [Char.toLower_eq_of_not_isUpper hupper]
    exact h

theorem lowerChar_lowerChar (c : Char) : lowerChar (lowerChar c) = lowerChar c := by
  by_cases hascii : (lowerChar c).toNat < 0x80
  · exact lowerChar_of_ascii hascii (isUpper_lowerChar c)
  rcases lowerChar_cases c with ⟨hc, hself⟩ | ⟨r, hr, hmoves, hto⟩ | ⟨-, hsame, -⟩
  · exact absurd (hself ▸ ascii_toLower hc) hascii
  · rcases lowerChar_cases (lowerChar c) with ⟨hc, -⟩ | ⟨r', hr', hmoves', -⟩ | ⟨-, hsame, -⟩
    · exact absurd hc hascii
    · rw [hto] at hmoves'
      exact absurd hmoves' (hmoves.not_moves hr (by simp [hr']))
    · exact hsame
  · rw [hsame, hsame]

theorem eq_of_lowerChar {c d : Char} (h : lowerChar c = d) (hascii : d.toNat < 0x80)
    (hletter : d.isLower = false) : c = d := by
  subst h
  rcases ascii_lowerChar hascii with hk | ⟨-, hself⟩
  · rw [hk] at hletter
    exact absurd hletter (by decide)
  · rw [hself, Char.isLower_toLower_eq_isAlpha, Char.isAlpha, Bool.or_eq_false_iff] at hletter
    rw [hself, Char.toLower_eq_of_not_isUpper (by simp [hletter.1])]

theorem lowerChar_eq_iff {c d : Char} (hascii : d.toNat < 0x80) (hletter : d.isAlpha = false) :
    lowerChar c = d ↔ c = d := by
  rw [Char.isAlpha, Bool.or_eq_false_iff] at hletter
  refine ⟨fun h => eq_of_lowerChar h hascii hletter.2, ?_⟩
  rintro rfl
  exact lowerChar_of_ascii hascii hletter.1

theorem toLower_inj {c d : Char} (hc : c.isUpper) (hd : d.isUpper) (h : c.toLower = d.toLower) :
    c = d := by
  rw [Char.isUpper, decide_eq_true_eq] at hc hd
  rw [Char.toLower, dif_pos hc, Char.toLower, dif_pos hd] at h
  have hval := congrArg Char.val h
  exact Char.ext (add_right_cancel hval)

/-- A letter from A to Z comes from no other character, the Kelvin sign apart. -/
theorem lowerChar_eq_toLower_iff {c d : Char} (hd : d.isUpper) (hk : d ≠ 'K') :
    lowerChar c = d.toLower ↔ c = d ∨ c = d.toLower := by
  have hascii : d.toNat < 0x80 := by
    rw [Char.isUpper, decide_eq_true_eq] at hd
    have hhigh : d.toNat ≤ 0x5A := hd.2
    omega
  have hself : lowerChar d = d.toLower := if_pos hascii
  constructor
  · intro h
    have hsmall := ascii_toLower hascii
    rw [← h] at hsmall
    rcases ascii_lowerChar hsmall with hkelvin | ⟨-, hlower⟩
    · have hk' : d.toLower = Char.toLower 'K' := h.symm.trans hkelvin
      exact absurd (toLower_inj hd rfl hk') hk
    · rw [hlower] at h
      by_cases hc : c.isUpper
      · exact .inl (toLower_inj hc hd h)
      · rw [Char.toLower_eq_of_not_isUpper hc] at h
        exact .inr h
  · rintro (rfl | rfl)
    · exact hself
    · rw [← hself]
      exact lowerChar_lowerChar d

/-- A digit is in ASCII and no letter. -/
theorem ascii_of_isDigit {c : Char} (h : c.isDigit) : c.toNat < 0x80 ∧ c.isAlpha = false := by
  obtain ⟨hlow, hhigh⟩ : 48 ≤ c.toNat ∧ c.toNat ≤ 57 := Char.isDigit_iff_toNat.mp h
  refine ⟨by omega, ?_⟩
  rw [Bool.eq_false_iff, ne_eq, Char.isAlpha, Bool.or_eq_true, Char.isUpper, decide_eq_true_eq,
    Char.isLower, Bool.and_eq_true, decide_eq_true_eq]
  rintro (⟨hupper, -⟩ | ⟨hlower, -⟩)
  · have hupper' : 0x41 ≤ c.toNat := hupper
    omega
  · have hlower' : 0x61 ≤ c.toNat := hlower
    omega

theorem lowerChar_of_isDigit {c : Char} (h : c.isDigit) : lowerChar c = c :=
  (lowerChar_eq_iff (ascii_of_isDigit h).1 (ascii_of_isDigit h).2).mpr rfl

theorem isDigit_lowerChar (c : Char) : (lowerChar c).isDigit = c.isDigit := by
  rw [Bool.eq_iff_iff]
  constructor
  · intro h
    obtain ⟨hascii, hletter⟩ := ascii_of_isDigit h
    rwa [← (lowerChar_eq_iff hascii hletter).mp rfl] at h
  · intro h
    rwa [lowerChar_of_isDigit h]

/-- Only themselves become the dotted capital I and the minus sign. -/
theorem eq_of_lowerChar_outside {c d : Char} (h : lowerChar c = d) (hd : d = 'İ' ∨ d = '\u2212') :
    c = d := by
  rcases lowerChar_cases c with ⟨hc, hself⟩ | ⟨r, hr, hmoves, hto⟩ | ⟨-, hsame, -⟩
  · have hascii := ascii_toLower hc
    rw [← hself, h] at hascii
    rcases hd with rfl | rfl <;> exact absurd hascii (by decide)
  · rw [hto] at h
    rcases hd with rfl | rfl
    · have hnot := hmoves.not_moves hr List.mem_cons_self
      rw [h] at hnot
      exact absurd ⟨by decide, by decide, rfl⟩ hnot
    · have hnot := hmoves.not_moves hr (List.mem_cons_of_mem _ List.mem_cons_self)
      rw [h] at hnot
      exact absurd ⟨by decide, by decide, rfl⟩ hnot
  · exact hsame.symm.trans h

/-! ## Texts -/

/-- A character that lower-casing leaves as it is. -/
def IsSmall (c : Char) : Prop := lowerChar c = c ∧ c ≠ 'Σ' ∧ c ≠ 'İ'

theorem isSmall_of_ascii {c : Char} (hascii : c.toNat < 0x80) (hupper : c.isUpper = false) :
    IsSmall c := by
  refine ⟨lowerChar_of_ascii hascii hupper, ?_, ?_⟩
  all_goals
    rintro rfl
    exact absurd hascii (by decide)

theorem isSmall_lowerChar {c : Char} (h : c ≠ 'İ') : IsSmall (lowerChar c) := by
  have hself := lowerChar_lowerChar c
  refine ⟨hself, fun hsigma => ?_, fun hdotted => h ?_⟩
  · rw [hsigma] at hself
    exact absurd hself (by decide)
  · rw [eq_of_lowerChar_outside hdotted (.inl rfl)]

/-- What becomes of the first character. -/
theorem lowerFrom_cons (before : List Char) (c : Char) (cs : List Char) :
    ∃ here, lowerFrom before (c :: cs) = here ++ lowerFrom (c :: before) cs ∧
      (here = ['ς'] ∨ here = ['σ'] ∨ here = ['i', '\u0307'] ∨
        c ≠ 'Σ' ∧ c ≠ 'İ' ∧ here = [lowerChar c]) := by
  refine ⟨_, rfl, ?_⟩
  split
  · split
    · exact .inl rfl
    · exact .inr (.inl rfl)
  rename_i hsigma
  split
  · exact .inr (.inr (.inl rfl))
  · rename_i hdotted
    exact .inr (.inr (.inr ⟨hsigma, hdotted, rfl⟩))

theorem isSmall_of_mem_lowerFrom {d : Char} {before cs : List Char}
    (h : d ∈ lowerFrom before cs) : IsSmall d := by
  induction cs generalizing before with
  | nil => cases h
  | cons c cs ih =>
      obtain ⟨here, hlower, hhere⟩ := lowerFrom_cons before c cs
      rw [hlower, List.mem_append] at h
      rcases h with hd | hd
      · rcases hhere with rfl | rfl | rfl | ⟨-, hdotted, rfl⟩
        · rw [List.mem_singleton.mp hd]
          exact ⟨by decide, by decide, by decide⟩
        · rw [List.mem_singleton.mp hd]
          exact ⟨by decide, by decide, by decide⟩
        · simp only [List.mem_cons, List.not_mem_nil, or_false] at hd
          rcases hd with rfl | rfl
          · exact isSmall_of_ascii (by decide) rfl
          · exact ⟨by decide, by decide, by decide⟩
        · rw [List.mem_singleton.mp hd]
          exact isSmall_lowerChar hdotted
      · exact ih hd

theorem lowerFrom_eq_map {cs : List Char} (h : ∀ c ∈ cs, c ≠ 'Σ' ∧ c ≠ 'İ')
    (before : List Char) : lowerFrom before cs = cs.map lowerChar := by
  induction cs generalizing before with
  | nil => rfl
  | cons c cs ih =>
      rw [List.forall_mem_cons] at h
      obtain ⟨⟨hsigma, hdotted⟩, hrest⟩ := h
      rw [lowerFrom, if_neg hsigma, if_neg hdotted, ih hrest]
      rfl

theorem lowerFrom_of_isSmall {cs : List Char} (h : ∀ c ∈ cs, IsSmall c) (before : List Char) :
    lowerFrom before cs = cs := by
  rw [lowerFrom_eq_map fun c hc => (h c hc).2, List.map_congr_left fun c hc => (h c hc).1,
    List.map_id']

/-- A text has no capital sigma and no dotted capital I if its lower case has nothing that they
become. -/
theorem simple_of_lowerFrom {before cs : List Char}
    (h : ∀ d ∈ lowerFrom before cs, d ≠ 'ς' ∧ d ≠ 'σ' ∧ d ≠ '\u0307') :
    ∀ c ∈ cs, c ≠ 'Σ' ∧ c ≠ 'İ' := by
  induction cs generalizing before with
  | nil => exact fun c hc => nomatch hc
  | cons c cs ih =>
      obtain ⟨here, hlower, hhere⟩ := lowerFrom_cons before c cs
      rw [hlower, List.forall_mem_append] at h
      refine List.forall_mem_cons.mpr ⟨?_, ih h.2⟩
      rcases hhere with rfl | rfl | rfl | ⟨hsigma, hdotted, -⟩
      · exact absurd rfl (h.1 'ς' List.mem_cons_self).1
      · exact absurd rfl (h.1 'σ' List.mem_cons_self).2.1
      · exact absurd rfl (h.1 '\u0307' (by simp)).2.2
      · exact ⟨hsigma, hdotted⟩

theorem lower_lower (s : String) : lower (lower s) = lower s := by
  rw [lower, lowerFrom_of_isSmall, String.ofList_toList]
  intro c hc
  rw [lower, String.toList_ofList] at hc
  exact isSmall_of_mem_lowerFrom hc

theorem eq_nil_of_lowerFrom {before cs : List Char} (h : lowerFrom before cs = []) : cs = [] := by
  cases cs with
  | nil => rfl
  | cons c cs =>
      obtain ⟨here, hlower, hhere⟩ := lowerFrom_cons before c cs
      rw [hlower] at h
      rcases hhere with rfl | rfl | rfl | ⟨-, -, rfl⟩ <;> cases h

/-- A single character that is no letter is the lower case of itself only. -/
theorem lower_eq_singleton {s : String} {d : Char} (hascii : d.toNat < 0x80)
    (hletter : d.isLower = false) (h : lower s = .ofList [d]) : s = .ofList [d] := by
  rw [lower, String.ofList_inj] at h
  rw [← String.toList_inj, String.toList_ofList]
  cases hs : s.toList with
  | nil =>
      rw [hs] at h
      cases h
  | cons c cs =>
      obtain ⟨here, hlower, hhere⟩ := lowerFrom_cons [] c cs
      rw [hs, hlower] at h
      have hne : here ≠ [] := by
        rcases hhere with rfl | rfl | rfl | ⟨-, -, rfl⟩ <;> simp
      obtain ⟨hnil, -⟩ | ⟨rfl, hrest⟩ := List.append_eq_singleton_iff.mp h
      · exact absurd hnil hne
      simp only [List.cons.injEq, and_true, reduceCtorEq, and_false, false_or] at hhere
      rcases hhere with rfl | rfl | ⟨-, -, hself⟩
      · exact absurd hascii (by decide)
      · exact absurd hascii (by decide)
      · rw [eq_of_lowerChar hself.symm hascii hletter, eq_nil_of_lowerFrom hrest]

end RecordListing.Text
