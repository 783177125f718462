import RecordListing.Text.Width

namespace RecordListing.Text

/-!
# Display width of a text in its surroundings

A character may take back a column that a character after it has taken, but never one
that was not. So a width is a sum that no cutting at zero distorts, and a text keeps
its width when blanks are put around it.
-/

/-- The columns of characters before a context, and the context before them. -/
def measured (ctx : WidthContext) (cs : List Char) : Int × WidthContext :=
  cs.foldr (fun c (acc : Int × WidthContext) =>
    let step := widthBefore c acc.2
    (acc.1 + step.1, step.2)) (0, ctx)

@[simp] theorem measured_nil (ctx : WidthContext) : measured ctx [] = (0, ctx) := rfl

theorem measured_cons (ctx : WidthContext) (c : Char) (cs : List Char) :
    measured ctx (c :: cs) =
      ((measured ctx cs).1 + (widthBefore c (measured ctx cs).2).1,
        (widthBefore c (measured ctx cs).2).2) := rfl

theorem measured_append (ctx : WidthContext) (xs ys : List Char) :
    measured ctx (xs ++ ys) =
      ((measured ctx ys).1 + (measured (measured ctx ys).2 xs).1,
        (measured (measured ctx ys).2 xs).2) := by
  induction xs with
  | nil => simp
  | cons c xs ih => simp [measured_cons, ih, Int.add_assoc]

/-! ## No width is negative -/

/-- The columns that a character before may take back. -/
def Following.owed : Following → Int
  | .khmer | .joinedRegional | .joinedPairsAndOne | .tifinaghJoined => 1
  | _ => 0

theorem Following.owed_nonneg (f : Following) : 0 ≤ f.owed := by
  unfold owed
  split <;> decide

theorem Following.owed_le_one (f : Following) : f.owed ≤ 1 := by
  unfold owed
  split <;> decide

theorem WidthContext.owed_outlasting (ctx : WidthContext) :
    ctx.outlasting.next.owed ≤ ctx.next.owed := by
  unfold outlasting
  split
  · exact Int.le_refl _
  · exact ctx.next.owed_nonneg

theorem WidthContext.owed_behindSelector (ctx : WidthContext) (s : Selector) :
    (ctx.behindSelector s).next.owed ≤ ctx.next.owed := by
  unfold behindSelector
  split
  · exact Int.le_refl _
  · exact ctx.owed_outlasting

theorem ownWidth_nonneg (c : Char) : 0 ≤ ownWidth c := by
  unfold ownWidth
  grind

/-- Khmer letters are no combining characters. -/
theorem ownWidth_of_khmer {c : Char} (h : memRuns khmerLetters c) : 1 ≤ ownWidth c := by
  have hapart : ∀ r ∈ zeroWidth, r.2 < 0x1780 ∨ 0x17B0 ≤ r.1 := by decide +kernel
  have hrange : 0x1780 ≤ c.toNat ∧ c.toNat < 0x17B0 := by
    simp only [memRuns, khmerLetters, List.any_cons, List.any_nil, Bool.or_false, Bool.or_eq_true,
      Bool.and_eq_true, decide_eq_true_eq] at h
    omega
  have hnot : memRuns zeroWidth c = false := by
    rw [memRuns, List.any_eq_false]
    intro r hr
    have hbeside := hapart r hr
    simp only [Bool.and_eq_true, decide_eq_true_eq]
    omega
  unfold ownWidth
  grind

theorem owed_ownFollowing (c : Char) : (ownFollowing c).owed ≤ ownWidth c := by
  cases hkhmer : memRuns khmerLetters c with
  | true => exact Int.le_trans (ownFollowing c).owed_le_one (ownWidth_of_khmer hkhmer)
  | false =>
      have hnothing : (ownFollowing c).owed = 0 := by
        unfold ownFollowing
        rw [hkhmer]
        simp only [apply_ite Following.owed, Bool.false_eq_true, ↓reduceIte]
        simp only [Following.owed, ite_self]
      rw [hnothing]
      exact ownWidth_nonneg c

theorem owed_tagBefore {n : Nat} {next f : Following} (h : tagBefore n next = some f) :
    f.owed = 0 := by
  unfold tagBefore at h
  split at h
  · repeat' split at h
    all_goals cases h <;> rfl
  · repeat' split at h
    all_goals cases h <;> rfl
  · cases h

theorem owed_widthInSequence {c : Char} {ctx : WidthContext} {w : Int} {f : Following}
    (h : widthInSequence c ctx = some (w, f)) : f.owed ≤ ctx.next.owed + w := by
  unfold widthInSequence at h
  dsimp only at h
  split at h
  · cases h
    exact Int.add_nonneg ctx.next.owed_nonneg (Int.le_refl 0)
  · generalize ctx.next = next at h ⊢
    generalize c.toNat = n at h
    cases next
    case tagLetters count =>
      obtain ⟨f, hf, heq⟩ := Option.map_eq_some_iff.mp h
      cases heq
      exact Int.le_of_eq (owed_tagBefore hf)
    case tagDigits count =>
      obtain ⟨f, hf, heq⟩ := Option.map_eq_some_iff.mp h
      cases heq
      exact Int.le_of_eq (owed_tagBefore hf)
    all_goals
      dsimp only at h
      repeat' split at h
      all_goals cases h <;> decide

theorem owed_widthUnselected (c : Char) (ctx : WidthContext) :
    (widthUnselected c ctx).2.next.owed ≤ ctx.next.owed + (widthUnselected c ctx).1 := by
  unfold widthUnselected
  split
  · exact Int.le_of_eq (Int.add_zero _).symm
  split
  · exact Int.le_of_eq (Int.add_zero _).symm
  split
  · rename_i w f h
    exact owed_widthInSequence h
  · have hown := owed_ownFollowing c
    have hnonneg := ctx.next.owed_nonneg
    simp only [WidthContext.before]
    omega

/-- A step takes back no more than is owed. -/
theorem owed_widthBefore (c : Char) (ctx : WidthContext) :
    (widthBefore c ctx).2.next.owed ≤ ctx.next.owed + (widthBefore c ctx).1 := by
  have hnonneg := ctx.next.owed_nonneg
  have hleft : (if ctx.selector = some .emojiStyle then ctx.outlasting else ctx).next.owed ≤
      ctx.next.owed := by
    split
    · exact ctx.owed_outlasting
    · exact Int.le_refl _
  have hnothing {w : Int} (hw : 0 ≤ w) : (0 : Int) ≤ ctx.next.owed + w := Int.add_nonneg hnonneg hw
  unfold widthBefore
  split
  · split
    · exact hnothing (by decide)
    · exact hnothing (by decide)
  · dsimp only
    generalize (if ctx.selector = some .emojiStyle then ctx.outlasting else ctx) = ctx' at hleft ⊢
    split
    · split
      · exact hnothing (w := 1) (by decide)
      split
      · exact hnothing (w := 0) (by decide)
      · exact hnothing (w := 1) (by decide)
    split
    · rename_i s _
      have hselector := ctx'.owed_behindSelector s
      dsimp only
      omega
    split
    · exact hnothing (w := 1) (by decide)
    split
    · exact hnothing (w := 2) (by decide)
    · have hunselected := owed_widthUnselected c { ctx' with selector := none }
      dsimp only at hunselected ⊢
      omega

theorem owed_measured (cs : List Char) :
    (measured .start cs).2.next.owed ≤ (measured .start cs).1 := by
  induction cs with
  | nil => decide
  | cons c cs ih =>
      have hstep := owed_widthBefore c (measured .start cs).2
      rw [measured_cons]
      dsimp only
      omega

theorem width_eq (s : String) : (width s : Int) = (measured .start s.toList).1 := by
  have hnonneg : 0 ≤ (measured .start s.toList).1 :=
    Int.le_trans (Following.owed_nonneg _) (owed_measured s.toList)
  exact Int.toNat_of_nonneg hnonneg

/-! ## Blanks around a text -/

/-- A blank takes one column before whatever follows it, and hides what does. -/
theorem widthBefore_blank (ctx : WidthContext) : widthBefore ' ' ctx = (1, .start) := by
  have hemoji : memRuns emojiOnRequest ' ' = false := by decide
  have htext : memRuns textOnRequest ' ' = false := by decide
  simp [widthBefore, hemoji, htext]

theorem measured_blanks (n : Nat) :
    measured .start (List.replicate n ' ') = ((n : Int), .start) := by
  induction n with
  | zero => rfl
  | succ n ih => simp [List.replicate_succ, measured_cons, ih, widthBefore_blank]

/-- A text between blanks has the columns that it has by itself. -/
theorem width_between_blanks (s : String) (n : Nat) :
    width (" " ++ s ++ String.ofList (List.replicate n ' ') ++ " ") = width s + n + 2 := by
  have hchars : (" " ++ s ++ String.ofList (List.replicate n ' ') ++ " ").toList =
      ' ' :: (s.toList ++ List.replicate (n + 1) ' ') := by
    simp [List.replicate_succ']
  have hwidth := width_eq (" " ++ s ++ String.ofList (List.replicate n ' ') ++ " ")
  have hself := width_eq s
  rw [hchars, measured_cons, measured_append, measured_blanks, widthBefore_blank] at hwidth
  dsimp only at hwidth
  omega

deriving instance DecidableEq for WidthContext

/-- Where every character takes one column and no part in a sequence, the columns are
the characters. -/
theorem width_of_single {s : String} (h : ∀ c ∈ s.toList, widthBefore c .start = (1, .start)) :
    width s = s.toList.length := by
  have hmeasured : measured .start s.toList = ((s.toList.length : Int), .start) := by
    generalize s.toList = cs at h
    induction cs with
    | nil => rfl
    | cons c cs ih =>
        rw [List.forall_mem_cons] at h
        simp [measured_cons, ih h.2, h.1]
  have hwidth := width_eq s
  rw [hmeasured] at hwidth
  exact Int.ofNat_inj.mp hwidth

example : (["|", "┆", "╪"] : List String).map width = [1, 1, 1] := by decide +kernel

end RecordListing.Text
