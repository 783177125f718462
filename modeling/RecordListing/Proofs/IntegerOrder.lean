import RecordListing.Proofs.NumberTexts

namespace RecordListing

/-!
# The order of integers and texts

Among absent values, integers and values that are no numbers, the comparison of integer
columns is that of a linear order: nothing at the bottom, then the integers by their value in
whatever spelling, then everything else by the code points of its text.
-/

namespace ValueKind

open Spelling

/-- Nothing, below the integers, below the texts. -/
abbrev IntegerPlace := WithBot (Int ⊕ₗ List Char)

/-- Where a looked-up value stands. Binary64 numbers, also in a text, have no place here. -/
inductive StandsAt : Option Json → IntegerPlace → Prop
  | absent : StandsAt none ⊥
  | integer (n : Int) : StandsAt (some (.num (.int n))) (toLex (.inl n) : Int ⊕ₗ List Char)
  | integerText {s : String} {n : Int} (h : IsInteger128 s n) :
      StandsAt (some (.str s)) (toLex (.inl n) : Int ⊕ₗ List Char)
  | otherText {s : String} (h : ¬ IsNumber s) :
      StandsAt (some (.str s)) (toLex (.inr s.toList) : Int ⊕ₗ List Char)
  | bool (b : Bool) :
      StandsAt (some (.bool b)) (toLex (.inr (Json.bool b).toText.toList) : Int ⊕ₗ List Char)
  | list (items : List Json) :
      StandsAt (some (.arr items)) (toLex (.inr (Json.arr items).toText.toList) : Int ⊕ₗ List Char)
  | object (members : List (String × Json)) :
      StandsAt (some (.obj members))
        (toLex (.inr (Json.obj members).toText.toList) : Int ⊕ₗ List Char)

/-- The place of an order key, binary64 numbers apart. -/
inductive KeyAt : OrderKey → IntegerPlace → Prop
  | absent : KeyAt .absent ⊥
  | integer (n : Int) : KeyAt (.number (.int n)) (toLex (.inl n) : Int ⊕ₗ List Char)
  | other (s : String) : KeyAt (.other s) (toLex (.inr s.toList) : Int ⊕ₗ List Char)

theorem StandsAt.keyAt {v : Option Json} {p : IntegerPlace} (h : StandsAt v p) :
    KeyAt (OrderKey.numeric v) p := by
  cases h with
  | absent => exact .absent
  | integer n => exact .integer n
  | integerText h =>
      rw [OrderKey.numeric, Number.ofText?_of_isInteger128 h]
      exact .integer _
  | otherText h =>
      rw [OrderKey.numeric, Number.ofText?_eq_none_iff.mpr h]
      exact .other _
  | bool b => exact .other _
  | list items => exact .other _
  | object members => exact .other _

theorem Compares.map {α β : Type} [LT α] [LT β] {f : α → β} (hf : ∀ a b, a < b → f a < f b)
    {o : Ordering} {a b : α} (h : o.Compares a b) : o.Compares (f a) (f b) := by
  cases o with
  | lt => exact hf a b h
  | eq => exact congrArg f h
  | gt => exact hf b a h

theorem compares_of_keyAt {a b : OrderKey} {p q : IntegerPlace} (ha : KeyAt a p) (hb : KeyAt b q) :
    (a.compare b).Compares p q := by
  cases ha with
  | absent =>
      cases hb with
      | absent => rfl
      | integer n => exact WithBot.bot_lt_coe _
      | other t => exact WithBot.bot_lt_coe _
  | integer m =>
      cases hb with
      | absent => exact WithBot.bot_lt_coe _
      | other t => exact WithBot.coe_lt_coe.mpr (Sum.Lex.inl_lt_inr _ _)
      | integer n =>
          have hcompare : (Ord.compare m n).Compares m n := (compare_iff m n).mp rfl
          refine Compares.map (f := fun k => ((toLex (.inl k) : Int ⊕ₗ List Char) : IntegerPlace))
            (fun k l hkl => ?_) hcompare
          exact WithBot.coe_lt_coe.mpr (Sum.Lex.inl_lt_inl_iff.mpr hkl)
  | other s =>
      cases hb with
      | absent => exact WithBot.bot_lt_coe _
      | integer n => exact WithBot.coe_lt_coe.mpr (Sum.Lex.inl_lt_inr _ _)
      | other t =>
          have hcompare : (Ord.compare s t).Compares s t := (compare_iff s t).mp rfl
          refine Compares.map
            (f := fun u => ((toLex (.inr u.toList) : Int ⊕ₗ List Char) : IntegerPlace))
            (fun u v huv => ?_) hcompare
          exact WithBot.coe_lt_coe.mpr (Sum.Lex.inr_lt_inr_iff.mpr (String.lt_iff_toList_lt.mp huv))

/-- Values that have a place are compared by their places. -/
theorem compare_integer_of_standsAt {a b : Option Json} {p q : IntegerPlace} (ha : StandsAt a p)
    (hb : StandsAt b q) : (ValueKind.integer.compare a b).Compares p q :=
  compares_of_keyAt ha.keyAt hb.keyAt

/-- An integer in two spellings, and a text whose decimal is too great for a number. -/
theorem compare_integer_of_standsAt_texts :
    ValueKind.integer.compare (some (.str " +007 ")) (some (.num (.int 7))) = .eq ∧
      ValueKind.integer.compare (some (.str " +007 ")) (some (.str "1e400")) = .lt := by
  have hspelled : IsInteger128 " +007 " 7 := by
    refine ⟨['+', '0', '0', '7'], ⟨[' '], [' '], rfl, by simp [Text.isBlank]⟩, ?_, by norm_num,
      by norm_num⟩
    exact ⟨['+'], false, ['0', '0', '7'], .plus, rfl, by simp, by simp, by decide⟩
  have hother : ¬ IsNumber "1e400" := Number.ofText?_eq_none_iff.mp (by decide +kernel)
  have hsame := compare_integer_of_standsAt (.integerText hspelled) (.integer 7)
  have hbelow := compare_integer_of_standsAt (.integerText hspelled) (.otherText hother)
  exact ⟨hsame.eq_eq.mpr rfl, hbelow.eq_lt.mpr (WithBot.coe_lt_coe.mpr (Sum.Lex.inl_lt_inr _ _))⟩

end ValueKind

end RecordListing
