import Mathlib.Data.List.TakeWhile
import RecordListing.Settings.Layers

namespace RecordListing

/-!
# Texts that read as scalars

A value of the environment that reads as a switch, an integer or a float is taken for
one, and written again where a text is wanted. The text that comes out is the one that
went in exactly where it is the written form of what it reads as.
-/

/-! ## Characters of numbers -/

theorem takeSign_eq (cs : List Char) :
    ∃ sign, cs = sign ++ (takeSign cs).2 ∧
      (sign = [] ∧ (takeSign cs).1 = false ∨ sign = ['+'] ∧ (takeSign cs).1 = false ∨
        sign = ['-'] ∧ (takeSign cs).1 = true) := by
  unfold takeSign
  split
  · exact ⟨['-'], rfl, .inr (.inr ⟨rfl, rfl⟩)⟩
  · exact ⟨['+'], rfl, .inr (.inl ⟨rfl, rfl⟩)⟩
  · exact ⟨[], rfl, .inl ⟨rfl, rfl⟩⟩

/-- The characters that numbers are written with. -/
def isNumeralChar (c : Char) : Bool := c.isDigit || c ∈ ['+', '-', '.', 'e', 'E']

theorem forall_mem_of_takeSign {cs : List Char}
    (h : ∀ c ∈ (takeSign cs).2, isNumeralChar c) : ∀ c ∈ cs, isNumeralChar c := by
  obtain ⟨sign, hcs, hsign⟩ := takeSign_eq cs
  rw [hcs, List.forall_mem_append]
  refine ⟨?_, h⟩
  rcases hsign with ⟨rfl, -⟩ | ⟨rfl, -⟩ | ⟨rfl, -⟩ <;> simp [isNumeralChar]

theorem integerOf?_eq_some_iff {low high n : Int} {cs : List Char} :
    integerOf? low high cs = some n ↔
      (takeSign cs).2 ≠ [] ∧ (∀ c ∈ (takeSign cs).2, c.isDigit) ∧
      n = (if (takeSign cs).1 then -(naturalOf (takeSign cs).2 : Int)
        else naturalOf (takeSign cs).2) ∧ low ≤ n ∧ n ≤ high := by
  unfold integerOf?
  dsimp only
  generalize (if (takeSign cs).1 then -(naturalOf (takeSign cs).2 : Int)
    else naturalOf (takeSign cs).2) = m
  split
  · rename_i h
    simp only [Bool.or_eq_true, List.isEmpty_iff, Bool.not_eq_true', List.all_eq_false] at h
    grind
  · rename_i h
    simp only [Bool.or_eq_true, List.isEmpty_iff, Bool.not_eq_true', List.all_eq_false] at h
    grind

theorem forall_mem_of_exponentOf? {cs : List Char} {e : Int}
    (h : Binary64.Extended.exponentOf? cs = some e) : ∀ c ∈ cs, isNumeralChar c := by
  cases cs with
  | nil => exact fun _ hc => nomatch hc
  | cons c cs =>
      by_cases hmark : c = 'e' ∨ c = 'E'
      · by_cases hdigits : ((takeSign cs).2.isEmpty || !(takeSign cs).2.all Char.isDigit) = true
        · simp [Binary64.Extended.exponentOf?, hmark, hdigits] at h
        · rw [List.forall_mem_cons]
          refine ⟨by rcases hmark with rfl | rfl <;> decide, forall_mem_of_takeSign fun c hc => ?_⟩
          simp only [Bool.or_eq_true, not_or, Bool.not_eq_true, Bool.not_eq_false',
            List.all_eq_true] at hdigits
          simp [isNumeralChar, hdigits.2 c hc]
      · simp [Binary64.Extended.exponentOf?, hmark] at h

theorem isNumeralChar_of_mem_takeWhile {cs : List Char} :
    ∀ c ∈ cs.takeWhile Char.isDigit, isNumeralChar c := by
  intro c hc
  simp [isNumeralChar, List.mem_takeWhile_imp hc]

theorem forall_mem_of_decimalOf? {cs : List Char} {d : Binary64.Decimal}
    (h : Binary64.Extended.decimalOf? cs = some d) : ∀ c ∈ cs, isNumeralChar c := by
  have hcs := List.takeWhile_append_dropWhile (p := Char.isDigit) (l := cs)
  rw [← hcs, List.forall_mem_append]
  refine ⟨isNumeralChar_of_mem_takeWhile, ?_⟩
  unfold Binary64.Extended.decimalOf? at h
  dsimp only at h
  generalize cs.dropWhile Char.isDigit = rest at h ⊢
  split at h
  · split at h
    · cases h
    obtain ⟨e, he, -⟩ := Option.map_eq_some_iff.mp h
    rename_i more _
    have hmore := List.takeWhile_append_dropWhile (p := Char.isDigit) (l := more)
    rw [List.forall_mem_cons, ← hmore, List.forall_mem_append]
    exact ⟨by decide, isNumeralChar_of_mem_takeWhile, forall_mem_of_exponentOf? he⟩
  · split at h
    · cases h
    obtain ⟨e, he, -⟩ := Option.map_eq_some_iff.mp h
    exact forall_mem_of_exponentOf? he

theorem forall_mem_of_extended {cs : List Char} {x : Binary64.Extended}
    (h : Binary64.Extended.ofText? cs = some x) :
    String.ofList ((takeSign cs).2.map Char.toLower) ∈ ["inf", "infinity", "nan"] ∨
      ∀ c ∈ cs, isNumeralChar c := by
  unfold Binary64.Extended.ofText? at h
  dsimp only at h
  split at h
  · rename_i hword
    rcases hword with hword | hword <;> simp [hword]
  split at h
  · rename_i hword
    simp [hword]
  · obtain ⟨d, hd, -⟩ := Option.map_eq_some_iff.mp h
    exact .inr (forall_mem_of_takeSign (forall_mem_of_decimalOf? hd))

/-! ## Written integers -/

theorem digitChar_digitValue {c : Char} (h : c.isDigit) :
    digitValue c < 10 ∧ Nat.digitChar (digitValue c) = c := by
  have hrange : 48 ≤ c.toNat ∧ c.toNat ≤ 57 := Char.isDigit_iff_toNat.mp h
  have hvalue : digitValue c = c.toNat - 48 := rfl
  refine ⟨by omega, Char.toNat_inj.mp ?_⟩
  rw [hvalue, Nat.toNat_digitChar_of_lt_ten (by omega)]
  omega

theorem toDigits_foldl {cs : List Char} (h : ∀ c ∈ cs, c.isDigit) {n : Nat} (hn : 0 < n) :
    Nat.toDigits 10 (cs.foldl (fun n c => 10 * n + digitValue c) n) = Nat.toDigits 10 n ++ cs := by
  induction cs generalizing n with
  | nil => simp
  | cons c cs ih =>
      rw [List.forall_mem_cons] at h
      obtain ⟨hlt, hchar⟩ := digitChar_digitValue h.1
      rw [List.foldl_cons, ih h.2 (by omega),
        ← Nat.toDigits_append_toDigits (by decide) hn hlt, Nat.toDigits_of_lt_base hlt, hchar]
      simp

/-- Digits without a zero in front, or zero itself. -/
def IsCanonical (digits : List Char) : Prop := digits.head? = some '0' → digits = ['0']

instance (digits : List Char) : Decidable (IsCanonical digits) :=
  inferInstanceAs (Decidable (_ → _))

theorem toDigits_naturalOf {digits : List Char} (h : ∀ c ∈ digits, c.isDigit) (hne : digits ≠ [])
    (hcanonical : IsCanonical digits) : Nat.toDigits 10 (naturalOf digits) = digits := by
  obtain ⟨c, cs, rfl⟩ := List.exists_cons_of_ne_nil hne
  rw [List.forall_mem_cons] at h
  by_cases hzero : c = '0'
  · rw [hcanonical (by rw [hzero]; rfl)]
    rfl
  · obtain ⟨hlt, hchar⟩ := digitChar_digitValue h.1
    have hpos : 0 < digitValue c := by
      rcases Nat.eq_zero_or_pos (digitValue c) with hvalue | hpos
      · rw [hvalue] at hchar
        exact absurd hchar.symm hzero
      · exact hpos
    have hfirst : 10 * 0 + digitValue c = digitValue c := by omega
    rw [naturalOf, List.foldl_cons, hfirst, toDigits_foldl h.2 hpos, Nat.toDigits_of_lt_base hlt,
      hchar]
    rfl

theorem naturalOf_toDigits (n : Nat) : naturalOf (Nat.toDigits 10 n) = n := by
  have hread := Nat.ofDigitChars_toDigits (b := 10) (n := n) (by decide) (by decide)
  rwa [Nat.ofDigitChars_eq_foldl] at hread

theorem isCanonical_toDigits (n : Nat) : IsCanonical (Nat.toDigits 10 n) := by
  induction n using Nat.strongRecOn with
  | ind n ih =>
      rcases Nat.lt_or_ge n 10 with hlt | hge
      · have hsmall : ∀ m, m < 10 → IsCanonical (Nat.toDigits 10 m) := by decide
        exact hsmall n hlt
      · have hparts := Nat.toDigits_append_toDigits (b := 10) (n := n / 10) (d := n % 10)
          (by decide) (by omega) (by omega)
        rw [Nat.div_add_mod] at hparts
        obtain ⟨c, cs, hcons⟩ := List.exists_cons_of_ne_nil
          (Nat.toDigits_ne_nil (n := n / 10) (b := 10))
        intro hhead
        rw [← hparts, hcons] at hhead
        have hzero := ih (n / 10) (by omega) (by rw [hcons]; exact hhead)
        -- What reads as zero is below ten.
        have hread := naturalOf_toDigits (n / 10)
        rw [hzero] at hread
        have hnone : naturalOf ['0'] = 0 := rfl
        omega

theorem toDigits_naturalOf_eq_iff {digits : List Char} (h : ∀ c ∈ digits, c.isDigit)
    (hne : digits ≠ []) : Nat.toDigits 10 (naturalOf digits) = digits ↔ IsCanonical digits :=
  ⟨fun heq => heq ▸ isCanonical_toDigits _, toDigits_naturalOf h hne⟩

/-- An integer as it is written: no plus sign, no zeros in front, and no sign at zero. -/
def IsWrittenInteger (cs : List Char) : Prop :=
  cs.head? ≠ some '+' ∧ IsCanonical (takeSign cs).2 ∧ cs ≠ ['-', '0']

theorem toList_decimalText (n : Int) :
    (decimalText n).toList = (if n < 0 then ['-'] else []) ++ Nat.toDigits 10 n.natAbs := by
  unfold decimalText
  split <;> simp

/-- An integer that was read is written as it stood exactly where it stood as integers are
written. -/
theorem decimalText_eq_iff {low high n : Int} {value : String}
    (h : integerOf? low high value.toList = some n) :
    decimalText n = value ↔ IsWrittenInteger value.toList := by
  obtain ⟨hne, hdigits, hn, -, -⟩ := integerOf?_eq_some_iff.mp h
  obtain ⟨sign, hvalue, hsign⟩ := takeSign_eq value.toList
  have hwritten := toDigits_naturalOf_eq_iff hdigits hne
  rw [IsWrittenInteger, ← String.toList_inj, toList_decimalText]
  generalize value.toList = cs at *
  generalize (takeSign cs).2 = digits at *
  have hfirst : ∀ c ∈ digits.head?, c ≠ '+' ∧ c ≠ '-' := by
    intro c hc
    have hdigit := hdigits c (List.mem_of_mem_head? hc)
    constructor <;> rintro rfl <;> exact absurd hdigit (by decide)
  rcases hsign with ⟨rfl, hsign⟩ | ⟨rfl, hsign⟩ | ⟨rfl, hsign⟩ <;>
    simp only [hsign, Bool.false_eq_true, ↓reduceIte, List.nil_append] at hn hvalue
  -- Without a sign the digits decide.
  · have hnonneg : ¬ n < 0 := by omega
    have habs : n.natAbs = naturalOf digits := by omega
    rw [if_neg hnonneg, habs, hvalue, List.nil_append, hwritten]
    refine ⟨fun hcanonical => ⟨fun hplus => ?_, hcanonical, ?_⟩, fun hcanonical => hcanonical.2.1⟩
    · exact (hfirst '+' hplus).1 rfl
    · rintro rfl
      exact (hfirst '-' rfl).2 rfl
  -- A plus sign is never written.
  · have hnonneg : ¬ n < 0 := by omega
    rw [if_neg hnonneg, hvalue, List.nil_append]
    constructor
    · intro hplus
      have hdigit := Nat.isDigit_of_mem_toDigits (b := 10) (n := n.natAbs) (c := '+') (by decide)
        (by decide) (by rw [hplus]; exact List.mem_cons_self)
      exact absurd hdigit (by decide)
    · rintro ⟨hplus, -⟩
      exact absurd rfl hplus
  -- A minus sign is written, but not before zero.
  · rw [hvalue]
    by_cases hzero : naturalOf digits = 0
    · obtain rfl : n = 0 := by omega
      constructor
      · intro hnought
        exact absurd (List.cons.inj hnought).1 (by decide)
      · rintro ⟨-, hcanonical, hnought⟩
        have hdigit : digits = ['0'] := by rw [← hwritten.mpr hcanonical, hzero]; rfl
        exact absurd (by rw [hdigit]; rfl) hnought
    · have hnegative : n < 0 := by omega
      have habs : n.natAbs = naturalOf digits := by omega
      rw [if_pos hnegative, habs, List.singleton_append, List.singleton_append, List.cons_inj_right,
        hwritten]
      refine ⟨fun hcanonical => ⟨by simp, hcanonical, ?_⟩, fun hcanonical => hcanonical.2.1⟩
      intro hnought
      rw [(List.cons.inj hnought).2] at hzero
      exact hzero rfl

/-! ## Values of the environment -/

namespace Layer

/-- The scalar that a value reads as. -/
def scalarOf? (value : String) : Option Scalar :=
  if Text.lower value = "true" then some (.switch true)
  else if Text.lower value = "false" then some (.switch false)
  else match integerOf? (-0x8000_0000_0000_0000) 0x7FFF_FFFF_FFFF_FFFF value.toList with
    | some n => some (.integer n)
    | none => (Binary64.Extended.ofText? value.toList).map .float

theorem ofVariable_eq (key value : String) :
    ofVariable key value =
      match scalarOf? value with
      | some v => .scalar (some environmentOrigin) v
      | none =>
        if key ∈ listKeys then
          .list (some environmentOrigin)
            ((Text.parts ',' value).map fun s => .scalar (some environmentOrigin) (.text s))
        else .scalar (some environmentOrigin) (.text value) := by
  unfold ofVariable scalarOf?
  dsimp only
  split
  · rfl
  split
  · rfl
  cases integerOf? (-0x8000_0000_0000_0000) 0x7FFF_FFFF_FFFF_FFFF value.toList with
  | some n => rfl
  | none => cases Binary64.Extended.ofText? value.toList <;> rfl

end Layer

namespace Text

/-- A character that is no letter stays where it is in lower case. -/
theorem mem_lower {c : Char} (hself : lowerChar c = c) (hsigma : c ≠ 'Σ') (hdotted : c ≠ 'İ')
    {s : String} (h : c ∈ s.toList) : c ∈ (lower s).toList := by
  have hfrom : ∀ before cs, c ∈ cs → c ∈ lowerFrom before cs := by
    intro before cs hc
    induction cs generalizing before with
    | nil => cases hc
    | cons d cs ih =>
        rw [lowerFrom, List.mem_append]
        rcases List.mem_cons.mp hc with rfl | hc
        · simp [hself, hsigma, hdotted]
        · exact .inr (ih (d :: before) hc)
  simpa [lower] using hfrom [] s.toList h

end Text

namespace Layer

/-- A comma is in no switch and in no number. -/
theorem scalarOf?_of_comma {value : String} (h : ',' ∈ value.toList) : scalarOf? value = none := by
  have hlower : ',' ∈ (Text.lower value).toList :=
    Text.mem_lower (by decide) (by decide) (by decide) h
  have hword (word : String) (hword : ',' ∉ word.toList) : Text.lower value ≠ word := by
    rintro rfl
    exact hword hlower
  have hnumeral : ¬ ∀ c ∈ value.toList, isNumeralChar c := fun hall =>
    absurd (hall ',' h) (by decide)
  have hinteger :
      integerOf? (-0x8000_0000_0000_0000) 0x7FFF_FFFF_FFFF_FFFF value.toList = none := by
    refine Option.eq_none_iff_forall_ne_some.mpr fun n hn => hnumeral ?_
    obtain ⟨-, hdigits, -⟩ := integerOf?_eq_some_iff.mp hn
    exact forall_mem_of_takeSign fun c hc => by simp [isNumeralChar, hdigits c hc]
  have hfloat : Binary64.Extended.ofText? value.toList = none := by
    refine Option.eq_none_iff_forall_ne_some.mpr fun x hx => ?_
    rcases forall_mem_of_extended hx with hspecial | hall
    · obtain ⟨sign, hvalue, hsign⟩ := takeSign_eq value.toList
      have hbody : ',' ∈ (takeSign value.toList).2 := by
        rw [hvalue, List.mem_append] at h
        rcases hsign with ⟨rfl, -⟩ | ⟨rfl, -⟩ | ⟨rfl, -⟩ <;> simpa using h
      have hcomma : ',' ∈ (String.ofList ((takeSign value.toList).2.map Char.toLower)).toList := by
        rw [String.toList_ofList]
        exact List.mem_map.mpr ⟨',', hbody, rfl⟩
      generalize String.ofList ((takeSign value.toList).2.map Char.toLower) = word at *
      revert hcomma
      revert word
      decide
    · exact hnumeral hall
  simp [scalarOf?, hword "true" (by decide), hword "false" (by decide), hinteger, hfloat]

/-! ## Values that arrive unchanged -/

/-- What a value becomes where a text is wanted. -/
def arrival (value : String) : String :=
  match scalarOf? value with
  | some (.switch b) => switchText b
  | some (.integer n) => decimalText n
  | some (.float x) => x.write Binary64.Extended.plainStyle
  | _ => value

/-- A value that reads as no scalar, or is written as the one that it reads as. -/
def Kept (value : String) : Prop :=
  match scalarOf? value with
  | some (.switch b) => value = switchText b
  | some (.integer _) => IsWrittenInteger value.toList
  | some (.float x) => value = x.write Binary64.Extended.plainStyle
  | _ => True

theorem scalarOf?_eq_some {value : String} {v : Scalar} (h : scalarOf? value = some v) :
    (∃ b, v = .switch b) ∨
      (∃ n, v = .integer n ∧
        integerOf? (-0x8000_0000_0000_0000) 0x7FFF_FFFF_FFFF_FFFF value.toList = some n) ∨
      ∃ x, v = .float x := by
  unfold scalarOf? at h
  split at h
  · exact .inl ⟨true, (Option.some.inj h).symm⟩
  split at h
  · exact .inl ⟨false, (Option.some.inj h).symm⟩
  cases hinteger : integerOf? (-0x8000_0000_0000_0000) 0x7FFF_FFFF_FFFF_FFFF value.toList with
  | some n =>
      rw [hinteger] at h
      exact .inr (.inl ⟨n, (Option.some.inj h).symm, rfl⟩)
  | none =>
      rw [hinteger] at h
      obtain ⟨x, -, hx⟩ := Option.map_eq_some_iff.mp h
      exact .inr (.inr ⟨x, hx.symm⟩)

theorem arrival_eq_iff (value : String) : arrival value = value ↔ Kept value := by
  unfold arrival Kept
  cases h : scalarOf? value with
  | none => simp
  | some v =>
      rcases scalarOf?_eq_some h with ⟨b, rfl⟩ | ⟨n, rfl, hinteger⟩ | ⟨x, rfl⟩
      · exact eq_comm
      · exact decimalText_eq_iff hinteger
      · exact eq_comm

example : ["007", "+5", "-0", "TRUE", "NAN", "1a"].map arrival =
    ["7", "5", "0", "true", "NaN", "1a"] := by decide

theorem text_ofVariable {key : String} (hkey : key ∉ listKeys) (value : String) :
    Decoder.text (ofVariable key value) = .ok (arrival value) := by
  rw [ofVariable_eq, arrival]
  cases h : scalarOf? value with
  | none => simp [hkey, Decoder.text]
  | some v =>
      rcases scalarOf?_eq_some h with ⟨b, rfl⟩ | ⟨n, rfl, -⟩ | ⟨x, rfl⟩ <;> rfl

end Layer

end RecordListing
