namespace RecordListing.Text

/-!
# Parts of a text

Cutting a text at every occurrence of a separator, and joining the parts again.
There is always at least one part.
-/

def splitAt (sep : Char) : List Char → List (List Char)
  | [] => [[]]
  | c :: cs =>
    if c = sep then [] :: splitAt sep cs
    else match splitAt sep cs with
      | [] => [[c]]
      | p :: ps => (c :: p) :: ps

def parts (sep : Char) (s : String) : List String :=
  (splitAt sep s.toList).map .ofList

/-- The texts with `sep` between each two. -/
def join (sep : String) : List String → String
  | [] => ""
  | [s] => s
  | s :: rest => s ++ sep ++ join sep rest

theorem splitAt_ne_nil (sep : Char) (cs : List Char) : splitAt sep cs ≠ [] := by
  cases cs with
  | nil => simp [splitAt]
  | cons c cs =>
      unfold splitAt
      split
      · simp
      · split <;> simp

theorem parts_ne_nil (sep : Char) (s : String) : parts sep s ≠ [] := by
  simp [parts, splitAt_ne_nil]

/-- A text without the separator is its only part. -/
theorem splitAt_of_not_mem {sep : Char} {cs : List Char} (h : sep ∉ cs) :
    splitAt sep cs = [cs] := by
  induction cs with
  | nil => rfl
  | cons c cs ih =>
      simp only [List.mem_cons, not_or] at h
      simp [splitAt, Ne.symm h.1, ih h.2]

/-- Cutting at a separator cuts what stands on its two sides. -/
theorem splitAt_append (sep : Char) (xs ys : List Char) :
    splitAt sep (xs ++ sep :: ys) = splitAt sep xs ++ splitAt sep ys := by
  induction xs with
  | nil => simp [splitAt]
  | cons c xs ih =>
      by_cases hc : c = sep
      · simp [splitAt, hc, ih]
      · simp only [List.cons_append, splitAt, hc, ↓reduceIte, ih]
        cases h : splitAt sep xs with
        | nil => exact absurd h (splitAt_ne_nil sep xs)
        | cons p ps => rfl

theorem not_mem_of_mem_splitAt {sep : Char} {cs p : List Char} (h : p ∈ splitAt sep cs) :
    sep ∉ p := by
  induction cs generalizing p with
  | nil => simp_all [splitAt]
  | cons c cs ih =>
      by_cases hc : c = sep
      · simp only [splitAt, hc, ↓reduceIte, List.mem_cons] at h
        rcases h with rfl | h
        · simp
        · exact ih h
      · simp only [splitAt, hc, ↓reduceIte] at h
        cases hsplit : splitAt sep cs with
        | nil => exact absurd hsplit (splitAt_ne_nil sep cs)
        | cons q qs =>
            rw [hsplit, List.mem_cons] at h
            rcases h with rfl | h
            · simpa [Ne.symm hc] using ih (hsplit ▸ List.mem_cons_self)
            · exact ih (hsplit ▸ List.mem_cons_of_mem q h)

theorem not_mem_of_mem_parts {sep : Char} {s part : String} (h : part ∈ parts sep s) :
    sep ∉ part.toList := by
  obtain ⟨p, hp, rfl⟩ := List.mem_map.mp h
  simpa using not_mem_of_mem_splitAt hp

theorem join_cons {sep s : String} {rest : List String} (h : rest ≠ []) :
    join sep (s :: rest) = s ++ sep ++ join sep rest := by
  cases rest with
  | nil => exact absurd rfl h
  | cons t rest => rfl

/-- A joined text has the characters of the texts and of what is put between them. -/
theorem forall_mem_join {P : Char → Prop} {sep : String} {texts : List String}
    (hsep : ∀ c ∈ sep.toList, P c) (htexts : ∀ text ∈ texts, ∀ c ∈ text.toList, P c) :
    ∀ c ∈ (join sep texts).toList, P c := by
  induction texts with
  | nil => simp [join]
  | cons text texts ih =>
      rw [List.forall_mem_cons] at htexts
      cases texts with
      | nil => exact htexts.1
      | cons text' texts =>
          rw [join_cons (by simp), String.toList_append, String.toList_append,
            List.forall_mem_append, List.forall_mem_append]
          exact ⟨⟨htexts.1, hsep⟩, ih htexts.2⟩

section Separator

variable {sep : Char} {between : String} (hbetween : between.toList = [sep])
include hbetween

theorem parts_append (s t : String) :
    parts sep (s ++ between ++ t) = parts sep s ++ parts sep t := by
  simp [parts, hbetween, splitAt_append]

/-- Texts without the separator are the parts of what they are joined to. -/
theorem parts_join {texts : List String} (hne : texts ≠ [])
    (h : ∀ s ∈ texts, sep ∉ s.toList) : parts sep (join between texts) = texts := by
  induction texts with
  | nil => exact absurd rfl hne
  | cons s rest ih =>
      rw [List.forall_mem_cons] at h
      cases rest with
      | nil => simp [join, parts, splitAt_of_not_mem h.1]
      | cons t rest =>
          have hrest : parts sep (join between (t :: rest)) = t :: rest := ih (by simp) h.2
          rw [join_cons (by simp), parts_append hbetween, hrest]
          simp [parts, splitAt_of_not_mem h.1]

/-- The parts of a text are joined to it again. -/
theorem join_parts (s : String) : join between (parts sep s) = s := by
  rw [← String.toList_inj]
  unfold parts
  generalize s.toList = cs
  induction cs with
  | nil => simp [splitAt, join]
  | cons c cs ih =>
      by_cases hc : c = sep
      · simp [splitAt, hc, join_cons, splitAt_ne_nil, hbetween, ih]
      · cases hsplit : splitAt sep cs with
        | nil => exact absurd hsplit (splitAt_ne_nil sep cs)
        | cons p ps =>
            rw [hsplit] at ih
            cases ps with
            | nil => simpa [splitAt, hc, hsplit, join] using ih
            | cons q qs => simpa [splitAt, hc, hsplit, join_cons] using ih

/-- What the separator is not in comes of texts only as one of them. -/
theorem mem_of_join {texts : List String} {s : String} (hne : s ≠ "") (hsep : sep ∉ s.toList)
    (h : join between texts = s) : s ∈ texts := by
  cases texts with
  | nil => exact absurd h.symm hne
  | cons t rest =>
      cases rest with
      | nil => exact h ▸ List.mem_singleton_self _
      | cons t' rest =>
          refine absurd ?_ hsep
          simp [← h, join_cons, hbetween]

end Separator

end RecordListing.Text
