import Mathlib
import RecordListing.Proofs.LowerCase
import RecordListing.Settings.Layers

namespace RecordListing

/-!
# Names in keys

A key is read name by name, with a dot before each name after the first. Names that can be
parts of a key are read back as they were joined. Of any other name the reader takes a part
at most, so a key with such a name has no meaning or means something else.
-/

namespace Setting.Key

/-- A name that can be a part of a key. -/
def IsName (s : String) : Prop := s.toList ≠ [] ∧ s.toList.all isNameChar = true

instance (s : String) : Decidable (IsName s) := inferInstanceAs (Decidable (_ ∧ _))

def dottedNames (names : List String) : List Char := names.flatMap fun name => '.' :: name.toList

theorem dottedNames_cons (name : String) (names : List String) :
    dottedNames (name :: names) = '.' :: (name.toList ++ dottedNames names) := by
  simp [dottedNames]

theorem length_le_dottedNames (names : List String) :
    names.length ≤ (dottedNames names).length := by
  induction names with
  | nil => exact Nat.zero_le _
  | cons name names ih =>
      rw [dottedNames_cons, List.length_cons, List.length_cons, List.length_append]
      omega

theorem isNameChar_dot : isNameChar '.' = false := by decide

theorem isNameChar_head_dottedNames (names : List String) :
    ∀ c ∈ (dottedNames names).head?, isNameChar c = false := by
  cases names with
  | nil => exact fun _ hc => nomatch hc
  | cons name names => simpa [dottedNames_cons] using isNameChar_dot

theorem toList_join (first : String) (names : List String) :
    (Text.join "." (first :: names)).toList = first.toList ++ dottedNames names := by
  induction names generalizing first with
  | nil => simp [Text.join, dottedNames]
  | cons name names ih =>
      rw [Text.join_cons (by simp), String.toList_append, String.toList_append, ih,
        dottedNames_cons]
      simp

theorem name?_append {s : String} (h : IsName s) {rest : List Char}
    (hrest : ∀ c ∈ rest.head?, isNameChar c = false) :
    name? (s.toList ++ rest) = some (s, rest) := by
  have hall := List.all_eq_true.mp h.2
  have htake : (s.toList ++ rest).takeWhile isNameChar = s.toList := by
    rw [List.takeWhile_append_of_pos hall]
    cases rest with
    | nil => simp
    | cons c rest => simp [hrest c rfl]
  have hdrop : (s.toList ++ rest).dropWhile isNameChar = rest := by
    rw [List.dropWhile_append_of_pos hall]
    cases rest with
    | nil => rfl
    | cons c rest => simp [hrest c rfl]
  have hne : s.toList.isEmpty = false := by simpa using h.1
  simp only [name?, htake, hdrop, hne, Bool.false_eq_true, ↓reduceIte, String.ofList_toList]

/-- Names behind dots are steps to children. -/
theorem steps?_dottedNames {names : List String} (h : ∀ name ∈ names, IsName name)
    {rest : List Char} (hrest : ∀ c ∈ rest.head?, isNameChar c = false) {fuel : Nat}
    (hfuel : names.length ≤ fuel) :
    steps? fuel (dottedNames names ++ rest) =
      (steps? (fuel - names.length) rest).map (names.map .child ++ ·) := by
  induction names generalizing fuel with
  | nil => simp [dottedNames]
  | cons name names ih =>
      rw [List.forall_mem_cons] at h
      obtain ⟨fuel, rfl⟩ : ∃ n, fuel = n + 1 := ⟨fuel - 1, by simp at hfuel; omega⟩
      have hnext : ∀ c ∈ (dottedNames names ++ rest).head?, isNameChar c = false := by
        cases names with
        | nil => exact hrest
        | cons name' names => simpa [dottedNames_cons] using isNameChar_dot
      have hsteps := ih h.2 (Nat.le_of_succ_le_succ hfuel)
      rw [dottedNames_cons, List.cons_append, List.append_assoc]
      simp only [steps?, name?_append h.1 hnext, Option.bind_eq_bind, Option.bind_some, hsteps,
        List.length_cons, Nat.reduceSubDiff, List.map_cons]
      cases steps? (fuel - names.length) rest <;> rfl

/-- The steps of a key are those after its first name. -/
theorem ofText?_of_toList {first text : String} {cs : List Char} (hfirst : IsName first)
    (hcs : ∀ c ∈ cs.head?, isNameChar c = false) (htext : text.toList = first.toList ++ cs) :
    ofText? text = (steps? cs.length cs).map (⟨first, ·⟩) := by
  simp only [ofText?, htext, name?_append hfirst hcs, Option.bind_eq_bind, Option.bind_some]
  cases steps? cs.length cs <;> rfl

theorem ofText?_join {first : String} {names : List String}
    (h : ∀ name ∈ first :: names, IsName name) :
    ofText? (Text.join "." (first :: names)) = some ⟨first, names.map .child⟩ := by
  rw [List.forall_mem_cons] at h
  have hend : ∀ c ∈ ([] : List Char).head?, isNameChar c = false := fun _ hc => nomatch hc
  have hsteps := steps?_dottedNames h.2 hend (length_le_dottedNames names)
  rw [List.append_nil] at hsteps
  rw [ofText?_of_toList h.1 (isNameChar_head_dottedNames names) (toList_join first names), hsteps]
  cases (dottedNames names).length - names.length <;> simp [steps?]

end Setting.Key

/-! ## Names in lower case -/

namespace Setting.Key

theorem length_lower {s : String} (h : s.toList.all isNameChar = true) :
    (Text.lower s).toList.length = s.toList.length := by
  have hsimple : ∀ c ∈ s.toList, c ≠ 'Σ' ∧ c ≠ 'İ' := by
    intro c hc
    have hname := List.all_eq_true.mp h c hc
    constructor
    all_goals
      rintro rfl
      exact absurd hname (by decide)
  rw [Text.lower, String.toList_ofList, Text.lowerFrom_eq_map hsimple, List.length_map]

/-! ## Names that are no part of a key -/

/-- What is read of such a name is a part of it, and not all. -/
theorem name?_of_not_isName {name : String} (hname : ¬ IsName name) {tail : List Char}
    (htail : ∀ c ∈ tail.head?, isNameChar c = false) {n : String} {rest : List Char}
    (h : name? (name.toList ++ tail) = some (n, rest)) :
    (Text.lower n).toList.length < name.toList.length := by
  have hall : ¬ ∀ c ∈ name.toList, isNameChar c := by
    intro hall
    have hempty : name.toList = [] := by
      by_contra hne
      exact hname ⟨hne, List.all_eq_true.mpr hall⟩
    have hnone : tail.takeWhile isNameChar = [] := by
      cases tail with
      | nil => rfl
      | cons c tail => simp [htail c rfl]
    simp [name?, hempty, hnone] at h
  have htake : ((name.toList ++ tail).takeWhile isNameChar).length < name.toList.length := by
    have hpart : (name.toList.takeWhile isNameChar).length < name.toList.length := by
      have hinitial := List.takeWhile_prefix (l := name.toList) isNameChar
      refine Nat.lt_of_le_of_ne hinitial.length_le fun hlength => hall ?_
      exact List.takeWhile_eq_self_iff.mp (hinitial.eq_of_length hlength)
    rw [List.takeWhile_append, if_neg (Nat.ne_of_lt hpart)]
    exact hpart
  unfold name? at h
  dsimp only at h
  split at h
  · cases h
  · obtain ⟨rfl, -⟩ := Prod.mk.inj (Option.some.inj h)
    rw [length_lower] <;> rw [String.toList_ofList]
    · exact htake
    · exact List.all_takeWhile

/-- A key with such a name has no meaning, or means another name. -/
theorem ofText?_of_not_isName {first text name : String} {before : List String}
    (hbefore : ∀ name ∈ first :: before, IsName name) (hname : ¬ IsName name) {tail : List Char}
    (htail : ∀ c ∈ tail.head?, isNameChar c = false)
    (htext : text.toList = first.toList ++ (dottedNames before ++ '.' :: (name.toList ++ tail))) :
    ofText? text = none ∨
      ∃ n steps, ofText? text = some ⟨first, before.map .child ++ .child n :: steps⟩ ∧
        (Text.lower n).toList.length < name.toList.length := by
  rw [List.forall_mem_cons] at hbefore
  let rest := '.' :: (name.toList ++ tail)
  have hrest : ∀ c ∈ rest.head?, isNameChar c = false := by
    rintro _ ⟨⟩
    exact isNameChar_dot
  have hhead : ∀ c ∈ (dottedNames before ++ rest).head?, isNameChar c = false := by
    cases before with
    | nil => exact hrest
    | cons name' before => simpa [dottedNames_cons] using isNameChar_dot
  have hfuel : before.length ≤ (dottedNames before ++ rest).length := by
    rw [List.length_append]
    exact Nat.le_trans (length_le_dottedNames before) (Nat.le_add_right _ _)
  -- The names before are steps. Behind them the reader stops, or takes a part of the name.
  rw [ofText?_of_toList hbefore.1 hhead htext, steps?_dottedNames hbefore.2 hrest hfuel]
  cases (dottedNames before ++ rest).length - before.length with
  | zero => exact .inl rfl
  | succ fuel =>
      cases hread : name? (name.toList ++ tail) with
      | none =>
          left
          simp [rest, steps?, hread]
      | some found =>
          obtain ⟨n, rest'⟩ := found
          cases hsteps : steps? fuel rest' with
          | none =>
              left
              simp [rest, steps?, hread, hsteps]
          | some steps =>
              right
              refine ⟨n, steps, ?_, name?_of_not_isName hname htail hread⟩
              simp [rest, steps?, hread, hsteps]

end Setting.Key

end RecordListing
