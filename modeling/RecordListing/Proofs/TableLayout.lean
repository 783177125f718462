import Mathlib.Algebra.GroupWithZero.Nat
import Mathlib.Data.List.Forall2
import Mathlib.Data.List.GetD
import RecordListing.Proofs.DisplayWidth
import RecordListing.Rendering

namespace RecordListing

/-!
# The layout of tables

Every row of a table takes a block of lines, as many as its tallest cell, and every
field of a line is as wide as its column. What the fields of a block show, one below the
other, are the texts that the JSON form has in the same row and column. The lines of
the borders stand apart from the blocks.
-/

namespace Table

/-! ## Maxima -/

theorem init_le_foldl_max (xs : List Nat) (a : Nat) : a ≤ xs.foldl max a := by
  induction xs generalizing a with
  | nil => exact Nat.le_refl a
  | cons x xs ih => exact Nat.le_trans (Nat.le_max_left a x) (ih (max a x))

theorem le_foldl_max {xs : List Nat} {x : Nat} (h : x ∈ xs) (a : Nat) : x ≤ xs.foldl max a := by
  induction xs generalizing a with
  | nil => cases h
  | cons y ys ih =>
      rcases List.mem_cons.mp h with rfl | h
      · exact Nat.le_trans (Nat.le_max_right a x) (init_le_foldl_max ys (max a x))
      · exact ih h (max a y)

theorem foldl_max_mem (xs : List Nat) (a : Nat) : xs.foldl max a = a ∨ xs.foldl max a ∈ xs := by
  induction xs generalizing a with
  | nil => exact .inl rfl
  | cons x xs ih =>
      rcases ih (max a x) with h | h
      · rw [List.foldl_cons, h]
        rcases Nat.le_total a x with hle | hle
        · exact .inr (by simp [Nat.max_eq_right hle])
        · exact .inl (Nat.max_eq_left hle)
      · exact .inr (List.mem_cons_of_mem x h)

theorem foldl_max_mem_of_ne_nil {xs : List Nat} (h : xs ≠ []) : xs.foldl max 0 ∈ xs := by
  rcases foldl_max_mem xs 0 with hzero | hmem
  · obtain ⟨x, xs, rfl⟩ := List.exists_cons_of_ne_nil h
    have hx : x = 0 := Nat.le_zero.mp (hzero ▸ le_foldl_max List.mem_cons_self 0)
    rw [hzero, hx]
    exact List.mem_cons_self
  · exact hmem

/-! ## Widths -/

theorem width_le_cellWidth {c : Cell} {line : String} (h : line ∈ c) :
    Text.width line ≤ c.width :=
  le_foldl_max (List.mem_map_of_mem h) 0

theorem width_getD_le_cellWidth (c : Cell) (i : Nat) : Text.width (c.getD i "") ≤ c.width := by
  by_cases hi : i < c.length
  · rw [List.getD_eq_getElem c "" hi]
    exact width_le_cellWidth (List.getElem_mem hi)
  · rw [List.getD_eq_default c "" (Nat.le_of_not_lt hi)]
    exact Nat.zero_le _

theorem getD_zipWith_max {ws vs : List Nat} (h : ws.length = vs.length) (j : Nat) :
    (ws.zipWith max vs).getD j 0 = max (ws.getD j 0) (vs.getD j 0) := by
  by_cases hj : j < ws.length
  · have hj' : j < vs.length := h ▸ hj
    have hzip : j < (ws.zipWith max vs).length := by
      rw [List.length_zipWith, ← h, Nat.min_self]
      exact hj
    rw [List.getD_eq_getElem _ 0 hzip, List.getD_eq_getElem _ 0 hj, List.getD_eq_getElem _ 0 hj',
      List.getElem_zipWith]
  · have hle : ws.length ≤ j := Nat.le_of_not_lt hj
    have hzip : (ws.zipWith max vs).length ≤ j := by
      rw [List.length_zipWith, ← h, Nat.min_self]
      exact hle
    rw [List.getD_eq_default _ 0 hzip, List.getD_eq_default _ 0 hle,
      List.getD_eq_default _ 0 (h ▸ hle), Nat.max_self]

theorem getD_map_width (row : List Cell) (j : Nat) :
    (row.map Cell.width).getD j 0 = (row.getD j []).width := by
  rw [← List.getD_map (f := Cell.width)]
  rfl

theorem foldl_widths (rows : List (List Cell)) {ws : List Nat}
    (h : ∀ row ∈ rows, row.length = ws.length) :
    let result := rows.foldl (fun ws row => ws.zipWith max (row.map Cell.width)) ws
    result.length = ws.length ∧ (∀ j, ws.getD j 0 ≤ result.getD j 0) ∧
      ∀ row ∈ rows, ∀ j, (row.getD j []).width ≤ result.getD j 0 := by
  induction rows generalizing ws with
  | nil => exact ⟨rfl, fun _ => Nat.le_refl _, fun _ hrow => nomatch hrow⟩
  | cons row rows ih =>
      rw [List.forall_mem_cons] at h
      have hlength : ws.length = (row.map Cell.width).length := by
        rw [List.length_map, h.1]
      have hzip : (ws.zipWith max (row.map Cell.width)).length = ws.length := by
        rw [List.length_zipWith, ← hlength, Nat.min_self]
      have hmax := getD_zipWith_max hlength
      obtain ⟨hresult, hinit, hrows⟩ := ih
        (fun row' hrow' => (h.2 row' hrow').trans hzip.symm)
      refine ⟨hresult.trans hzip, fun j => ?_, ?_⟩
      · exact Nat.le_trans (Nat.le_max_left _ _) (hmax j ▸ hinit j)
      · intro row' hrow' j
        rcases List.mem_cons.mp hrow' with rfl | hrow'
        · rw [← getD_map_width]
          exact Nat.le_trans (Nat.le_max_right _ _) (hmax j ▸ hinit j)
        · exact hrows row' hrow' j

/-- Where all rows have `n` cells, there are `n` widths, and every cell has room. -/
theorem widths_of_length {n : Nat} (rows : List (List Cell)) (hne : rows ≠ [])
    (h : ∀ row ∈ rows, row.length = n) :
    (widths rows).length = n ∧ ∀ row ∈ rows, ∀ wc ∈ (widths rows).zip row, wc.2.width ≤ wc.1 := by
  have hcount : (rows.map List.length).foldl max 0 = n := by
    obtain ⟨row, hrow, hlength⟩ := List.mem_map.mp
      (foldl_max_mem_of_ne_nil (show rows.map List.length ≠ [] by simpa using hne))
    rw [← hlength, h row hrow]
  have hstart : ∀ row ∈ rows, row.length = (List.replicate n 1).length := fun row hrow =>
    (h row hrow).trans List.length_replicate.symm
  obtain ⟨hlength, -, hroom⟩ := foldl_widths rows hstart
  unfold widths
  rw [hcount]
  refine ⟨hlength.trans List.length_replicate, fun row hrow wc hwc => ?_⟩
  obtain ⟨j, hj, rfl⟩ := List.mem_iff_getElem.mp hwc
  rw [List.length_zip, Nat.lt_min] at hj
  have hj' := hroom row hrow j
  rw [List.getD_eq_getElem _ _ hj.1, List.getD_eq_getElem _ _ hj.2] at hj'
  simpa using hj'

/-! ## Lines -/

theorem toList_foldl_append (strings : List String) (acc : String) :
    (strings.foldl (· ++ ·) acc).toList = acc.toList ++ (strings.map String.toList).flatten := by
  induction strings generalizing acc with
  | nil => simp
  | cons s strings ih => simp [ih]

theorem repeated_eq {s : String} {c : Char} (h : s.toList = [c]) (n : Nat) :
    repeated s n = String.ofList (List.replicate n c) := by
  rw [← String.toList_inj, repeated, toList_foldl_append]
  induction n with
  | zero => rfl
  | succ n ih => simp_all [List.replicate_succ]

/-- A text as one field of a column: blanks around it, and blanks up to the width. -/
def Shows (width : Nat) (text field : String) : Prop :=
  ∃ blanks, Text.width text + blanks = width ∧
    field = " " ++ text ++ String.ofList (List.replicate blanks ' ') ++ " "

theorem shows_field {width : Nat} {text : String} (h : Text.width text ≤ width) :
    Shows width text (field width text) := by
  refine ⟨width - Text.width text, by omega, ?_⟩
  rw [field, repeated_eq (c := ' ') rfl]

theorem Shows.width_eq {width : Nat} {text field : String} (h : Shows width text field) :
    Text.width field = width + 2 := by
  obtain ⟨blanks, hwidth, rfl⟩ := h
  rw [Text.width_between_blanks, hwidth]

/-- The line at an index of a text, empty behind the last one. -/
def lineAt (text : String) (l : Nat) : String := (Text.parts '\n' text).getD l ""

/-- What the lines of a block show: as many as the tallest text of the row has, and in each
of them the lines of all texts at its height, each as a field of its column. -/
structure ShowsRow (b : Borders) (ws : List Nat) (row : List String) (lines : List String) :
    Prop where
  tall : ∀ text ∈ row, (Text.parts '\n' text).length ≤ lines.length
  tallest : ∃ text ∈ row, (Text.parts '\n' text).length = lines.length
  fields : ∀ l, (h : l < lines.length) → ∃ fields : List String,
    lines[l] = b.left ++ Text.join b.between fields ++ b.right ∧
    List.Forall₂ (fun column field => Shows column.1 (lineAt column.2 l) field)
      (ws.zip row) fields ∧
    (fields.map Text.width).sum = ((ws.map (· + 2)).sum)

theorem map_width_of_shows {columns : List (Nat × String)} {fields : List String} {l : Nat}
    (h : List.Forall₂ (fun column field => Shows column.1 (lineAt column.2 l) field)
      columns fields) :
    fields.map Text.width = columns.map (·.1 + 2) := by
  induction h with
  | nil => rfl
  | cons hfield _ ih => rw [List.map_cons, List.map_cons, hfield.width_eq, ih]

theorem showsRow_block (b : Borders) {ws : List Nat} {row : List String} (hne : row ≠ [])
    (hlength : ws.length = row.length)
    (hroom : ∀ column ∈ ws.zip (row.map Cell.ofText), column.2.width ≤ column.1) :
    ShowsRow b ws row (block b ws (row.map Cell.ofText)) := by
  let heights := row.map fun text => (Text.parts '\n' text).length
  have hheight : (block b ws (row.map Cell.ofText)).length = heights.foldl max 0 := by
    simp [heights, block, Function.comp_def, Cell.ofText]
  refine ⟨fun text htext => ?_, ?_, fun l hl => ?_⟩
  · have hmem : (Text.parts '\n' text).length ∈ heights := List.mem_map_of_mem htext
    rw [hheight]
    exact le_foldl_max hmem 0
  · obtain ⟨text, htext, htall⟩ := List.mem_map.mp
      (foldl_max_mem_of_ne_nil (show heights ≠ [] by simpa [heights] using hne))
    exact ⟨text, htext, htall.trans hheight.symm⟩
  · have hfields : List.Forall₂ (fun column field => Shows column.1 (lineAt column.2 l) field)
        (ws.zip row) (ws.zipWith (fun w c => field w (c.getD l "")) (row.map Cell.ofText)) := by
      rw [List.zipWith_map_right, ← List.map_uncurry_zip_eq_zipWith, List.forall₂_map_right_iff]
      refine List.forall₂_same.mpr fun column hcolumn => shows_field ?_
      refine Nat.le_trans (width_getD_le_cellWidth _ l) (hroom (column.1, Cell.ofText column.2) ?_)
      rw [List.zip_map_right]
      exact List.mem_map_of_mem hcolumn
    refine ⟨_, by simp [block, contentLine], hfields, ?_⟩
    have hcolumns : (ws.zip row).map (·.1) = ws := List.map_fst_zip (Nat.le_of_eq hlength)
    calc _ = ((ws.zip row).map (·.1 + 2)).sum := by rw [map_width_of_shows hfields]
      _ = (((ws.zip row).map (·.1)).map (· + 2)).sum := by rw [List.map_map, Function.comp_def]
      _ = (ws.map (· + 2)).sum := by rw [hcolumns]

/-! ## Borders -/

def Borders.rules (b : Borders) : List Line :=
  [b.top, b.belowHeader, b.betweenRows, b.bottom].filterMap id

theorem Borders.mem_rules {b : Borders} {line : Option Line}
    (hline : line ∈ [b.top, b.belowHeader, b.betweenRows, b.bottom]) :
    ∀ rule ∈ line, rule ∈ b.rules :=
  fun _ hrule => List.mem_filterMap.mpr ⟨line, hline, hrule⟩

/-- One character that takes one column wherever it stands. -/
def Drawn (s : String) : Prop :=
  s.toList.length = 1 ∧
    s.toList.all (fun c => c ≠ '\n' ∧ Text.widthBefore c .start = (1, .start)) = true

theorem Drawn.of_mem {s : String} (h : Drawn s) :
    ∀ c ∈ s.toList, c ≠ '\n' ∧ Text.widthBefore c .start = (1, .start) := by
  intro c hc
  simpa using List.all_eq_true.mp h.2 c hc

/-- A content line opens with the left border and a blank. -/
def isContent (b : Borders) (line : String) : Bool :=
  (b.left ++ " ").toList.isPrefixOf line.toList

/-- The lines of a table without those of its borders. -/
def contentLines (style : TableStyle) (text : String) : List String :=
  (Text.parts '\n' text).filter (isContent (borders style))

theorem drawn_of_mem_rules {style : TableStyle} {rule : Line} (h : rule ∈ (borders style).rules) :
    Drawn rule.left ∧ Drawn rule.fill ∧ Drawn rule.cross ∧ Drawn rule.right := by
  unfold Drawn
  revert rule
  cases style <;> decide +kernel

/-- No rule opens as a content line does. -/
theorem opening_of_mem_rules {style : TableStyle} {rule : Line}
    (h : rule ∈ (borders style).rules) :
    ((borders style).left ++ " ").toList.length = (rule.left ++ rule.fill).toList.length ∧
      ((borders style).left ++ " ").toList ≠ (rule.left ++ rule.fill).toList := by
  revert rule
  cases style <;> decide

theorem oneLine_borders (style : TableStyle) :
    (∀ c ∈ (borders style).left.toList, c ≠ '\n') ∧
      (∀ c ∈ (borders style).between.toList, c ≠ '\n') ∧
      ∀ c ∈ (borders style).right.toList, c ≠ '\n' := by
  have hparts : '\n' ∉ (borders style).left.toList ∧ '\n' ∉ (borders style).between.toList ∧
      '\n' ∉ (borders style).right.toList := by
    cases style <;> decide
  exact ⟨fun _ hc => ne_of_mem_of_not_mem hc hparts.1,
    fun _ hc => ne_of_mem_of_not_mem hc hparts.2.1, fun _ hc => ne_of_mem_of_not_mem hc hparts.2.2⟩

/-! ## Characters of a line -/

theorem length_join {sep : String} (hsep : sep.toList.length = 1) {texts : List String}
    (hne : texts ≠ []) :
    (Text.join sep texts).toList.length + 1 = (texts.map (·.toList.length + 1)).sum := by
  induction texts with
  | nil => exact absurd rfl hne
  | cons text texts ih =>
      cases texts with
      | nil => simp [Text.join]
      | cons text' texts =>
          have hrest := ih (by simp)
          rw [Text.join_cons (by simp), List.map_cons, List.sum_cons, ← hrest]
          simp only [String.toList_append, List.length_append, hsep]
          omega

theorem toList_join_cons (sep text : String) (texts : List String) :
    ∃ rest, (Text.join sep (text :: texts)).toList = text.toList ++ rest := by
  cases texts with
  | nil => exact ⟨[], by simp [Text.join]⟩
  | cons text' texts =>
      refine ⟨sep.toList ++ (Text.join sep (text' :: texts)).toList, ?_⟩
      rw [Text.join_cons (by simp), String.toList_append, String.toList_append, List.append_assoc]

theorem toList_repeated {s : String} (h : Drawn s) (n : Nat) :
    (repeated s n).toList.length = n ∧ ∀ c ∈ (repeated s n).toList, c ∈ s.toList := by
  obtain ⟨c, hc⟩ := List.length_eq_one_iff.mp h.1
  rw [repeated_eq hc, hc, String.toList_ofList]
  exact ⟨List.length_replicate, fun c' hc' => by simp_all⟩

theorem forall_mem_write {P : Char → Prop} {rule : Line} (hfill : Drawn rule.fill)
    (h : ∀ part ∈ [rule.left, rule.fill, rule.cross, rule.right], ∀ c ∈ part.toList, P c)
    (ws : List Nat) : ∀ c ∈ (rule.write ws).toList, P c := by
  simp only [List.forall_mem_cons] at h
  obtain ⟨hleft, hmid, hcross, hright, -⟩ := h
  rw [Line.write, String.toList_append, String.toList_append, List.forall_mem_append,
    List.forall_mem_append]
  refine ⟨⟨hleft, Text.forall_mem_join hcross fun text htext c hc => ?_⟩, hright⟩
  obtain ⟨w, -, rfl⟩ := List.mem_map.mp htext
  exact hmid c ((toList_repeated hfill (w + 2)).2 c hc)

section Rules

variable {style : TableStyle} {rule : Line} (hrule : rule ∈ (borders style).rules)
include hrule

theorem forall_mem_rule (ws : List Nat) :
    ∀ c ∈ (rule.write ws).toList, c ≠ '\n' ∧ Text.widthBefore c .start = (1, .start) := by
  obtain ⟨hleft, hfill, hcross, hright⟩ := drawn_of_mem_rules hrule
  refine forall_mem_write hfill ?_ ws
  simp only [List.forall_mem_cons]
  exact ⟨hleft.of_mem, hfill.of_mem, hcross.of_mem, hright.of_mem, fun _ h => nomatch h⟩

/-- A rule has the columns of the fields and one more for each border. -/
theorem width_rule {ws : List Nat} (hne : ws ≠ []) :
    Text.width (rule.write ws) = (ws.map (· + 2)).sum + ws.length + 1 := by
  obtain ⟨hleft, hfill, hcross, hright⟩ := drawn_of_mem_rules hrule
  have hjoin := length_join hcross.1
    (show (ws.map fun w => repeated rule.fill (w + 2)) ≠ [] by simpa using hne)
  have hfields : ((ws.map fun w => repeated rule.fill (w + 2)).map (·.toList.length + 1)).sum =
      (ws.map (· + 2)).sum + ws.length := by
    rw [List.map_map]
    clear hne hjoin
    induction ws with
    | nil => rfl
    | cons w ws ih =>
        simp only [List.map_cons, List.sum_cons, List.length_cons, ih, Function.comp_apply,
          (toList_repeated hfill (w + 2)).1]
        omega
  rw [Text.width_of_single fun c hc => (forall_mem_rule hrule ws c hc).2, Line.write]
  simp only [String.toList_append, List.length_append, hleft.1, hright.1]
  omega

theorem isContent_rule {ws : List Nat} (hne : ws ≠ []) :
    isContent (borders style) (rule.write ws) = false := by
  obtain ⟨w, ws, rfl⟩ := List.exists_cons_of_ne_nil hne
  obtain ⟨hlength, hother⟩ := opening_of_mem_rules hrule
  obtain ⟨fill, hfill⟩ := List.length_eq_one_iff.mp (drawn_of_mem_rules hrule).2.1.1
  obtain ⟨rest, hopening⟩ : ∃ rest, (rule.write (w :: ws)).toList =
      (rule.left ++ rule.fill).toList ++ rest := by
    obtain ⟨rest, hjoin⟩ := toList_join_cons rule.cross (repeated rule.fill (w + 2))
      (ws.map fun w => repeated rule.fill (w + 2))
    refine ⟨List.replicate (w + 1) fill ++ rest ++ rule.right.toList, ?_⟩
    rw [Line.write, String.toList_append, String.toList_append, List.map_cons, hjoin,
      repeated_eq hfill, List.replicate_succ, String.toList_ofList]
    simp [hfill]
  rw [isContent, hopening, Bool.eq_false_iff, ne_eq, List.isPrefixOf_iff_prefix]
  rintro ⟨tail, htail⟩
  exact hother (List.append_inj_left htail hlength)

end Rules

/-! ## The content of a table -/

section Content

variable {style : TableStyle} {ws : List Nat}

theorem oneLine_lineAt (text : String) (l : Nat) : ∀ c ∈ (lineAt text l).toList, c ≠ '\n' := by
  rintro _ hc rfl
  rw [lineAt, List.getD_eq_getElem?_getD] at hc
  cases hpart : (Text.parts '\n' text)[l]? with
  | none => simp [hpart] at hc
  | some part =>
      rw [hpart] at hc
      exact Text.not_mem_of_mem_parts (List.mem_of_getElem? hpart) hc

theorem Shows.oneLine {width : Nat} {text field : String} (h : Shows width text field)
    (htext : ∀ c ∈ text.toList, c ≠ '\n') : ∀ c ∈ field.toList, c ≠ '\n' := by
  obtain ⟨blanks, -, rfl⟩ := h
  simp only [String.toList_append, String.toList_ofList, List.forall_mem_append]
  refine ⟨⟨⟨by simp, htext⟩, fun c hc => ?_⟩, by simp⟩
  rw [List.eq_of_mem_replicate hc]
  decide

theorem isContent_of_showsRow {row lines : List String} (hne : row ≠ [])
    (hlength : ws.length = row.length) (h : ShowsRow (borders style) ws row lines) :
    ∀ line ∈ lines, isContent (borders style) line ∧ ∀ c ∈ line.toList, c ≠ '\n' := by
  intro line hline
  obtain ⟨l, hl, rfl⟩ := List.mem_iff_getElem.mp hline
  obtain ⟨fields, hfields, hshows, -⟩ := h.fields l hl
  obtain ⟨hleft, hbetween, hright⟩ := oneLine_borders style
  rw [hfields, isContent]
  constructor
  · have hcolumns : ws.zip row ≠ [] := by
      simp only [ne_eq, List.zip_eq_nil_iff]
      rintro (rfl | rfl)
      · exact hne (List.eq_nil_of_length_eq_zero hlength.symm)
      · exact hne rfl
    obtain ⟨column, columns, hcolumn⟩ := List.exists_cons_of_ne_nil hcolumns
    rw [hcolumn, List.forall₂_cons_left_iff] at hshows
    obtain ⟨_, fields, ⟨blanks, -, rfl⟩, -, rfl⟩ := hshows
    obtain ⟨rest, hjoin⟩ := toList_join_cons (borders style).between
      (" " ++ lineAt column.2 l ++ String.ofList (List.replicate blanks ' ') ++ " ") fields
    simp only [List.isPrefixOf_iff_prefix, String.toList_append, hjoin, List.append_assoc]
    exact (List.prefix_append_right_inj _).mpr (List.prefix_append _ _)
  · simp only [String.toList_append, List.forall_mem_append]
    refine ⟨⟨hleft, Text.forall_mem_join hbetween fun field hfield => ?_⟩, hright⟩
    obtain ⟨j, hj, rfl⟩ := List.mem_iff_getElem.mp hfield
    exact (hshows.get (hshows.length_eq ▸ hj) hj).oneLine (oneLine_lineAt _ l)

theorem filter_lineOf {line : Option Line} (hrules : ∀ rule ∈ line, rule ∈ (borders style).rules)
    (hne : ws ≠ []) : (lineOf line ws).filter (isContent (borders style)) = [] := by
  cases line with
  | none => rfl
  | some rule =>
      simp [lineOf, isContent_rule (hrules rule rfl) hne]

theorem body_cons_cons (b : Borders) (ws : List Nat) (row row' : List Cell)
    (rows : List (List Cell)) :
    body b ws (row :: row' :: rows) =
      block b ws row ++ lineOf b.betweenRows ws ++ body b ws (row' :: rows) := rfl

theorem filter_body (hne : ws ≠ []) {rows : List (List Cell)}
    (h : ∀ row ∈ rows, ∀ line ∈ block (borders style) ws row, isContent (borders style) line) :
    (body (borders style) ws rows).filter (isContent (borders style)) =
      (rows.map (block (borders style) ws)).flatten := by
  induction rows with
  | nil => rfl
  | cons row rows ih =>
      rw [List.forall_mem_cons] at h
      have hrow := List.filter_eq_self.mpr h.1
      cases rows with
      | nil => simpa [body] using hrow
      | cons row' rows =>
          have hbetween : ∀ rule ∈ (borders style).betweenRows, rule ∈ (borders style).rules :=
            Borders.mem_rules (by simp)
          rw [body_cons_cons, List.filter_append, List.filter_append, hrow,
            filter_lineOf hbetween hne, ih h.2, List.append_nil]
          rfl

theorem forall_mem_body {P : String → Prop} {rows : List (List Cell)}
    (hrule : ∀ line ∈ lineOf (borders style).betweenRows ws, P line)
    (h : ∀ row ∈ rows, ∀ line ∈ block (borders style) ws row, P line) :
    ∀ line ∈ body (borders style) ws rows, P line := by
  induction rows with
  | nil => exact fun _ hline => nomatch hline
  | cons row rows ih =>
      rw [List.forall_mem_cons] at h
      cases rows with
      | nil => exact h.1
      | cons row' rows =>
          rw [body_cons_cons, List.forall_mem_append, List.forall_mem_append]
          exact ⟨⟨h.1, hrule⟩, ih h.2⟩

end Content

theorem content_or_rule_of_mem_lineOf {line : Option Line} {b : Borders} (ws : List Nat)
    (hrules : ∀ rule ∈ line, rule ∈ b.rules) :
    ∀ text ∈ lineOf line ws, ∃ rule ∈ b.rules, text = rule.write ws := by
  cases line with
  | none => exact fun _ htext => nomatch htext
  | some rule => simpa [lineOf] using ⟨rule, hrules rule rfl, rfl⟩

section Table

variable {style : TableStyle} {header : List String} {rows : List (List String)}
    (hne : header ≠ []) (hrows : ∀ row ∈ rows, row.length = header.length)

def columnWidths (header : List String) (rows : List (List String)) : List Nat :=
  widths ((header :: rows).map (·.map Cell.ofText))

/-- The lines of a row of texts. -/
def blockOf (style : TableStyle) (header : List String) (rows : List (List String))
    (row : List String) : List String :=
  block (borders style) (columnWidths header rows) (row.map Cell.ofText)

include hrows

/-- Where every row has as many texts as the header, no cells are added. -/
theorem lines_eq :
    lines style header rows =
      lineOf (borders style).top (columnWidths header rows) ++ blockOf style header rows header ++
      lineOf (borders style).belowHeader (columnWidths header rows) ++
      body (borders style) (columnWidths header rows) (rows.map (·.map Cell.ofText)) ++
      lineOf (borders style).bottom (columnWidths header rows) := by
  let cells := (header :: rows).map (·.map Cell.ofText)
  have hlength : ∀ row ∈ cells, row.length = header.length := by
    simpa [cells] using hrows
  have hcount : (cells.map List.length).foldl max 0 = header.length := by
    obtain ⟨row, hrow, hlong⟩ := List.mem_map.mp
      (foldl_max_mem_of_ne_nil (show cells.map List.length ≠ [] by simp [cells]))
    rw [← hlong, hlength row hrow]
  have hfilled : cells.map (fillRow header.length) = cells := by
    refine (List.map_congr_left fun row hrow => ?_).trans (List.map_id cells)
    rw [fillRow, hlength row hrow, Nat.sub_self, List.replicate_zero, List.append_nil, id]
  unfold lines
  dsimp only
  rw [show (header :: rows).map (·.map Cell.ofText) = cells from rfl, hcount, hfilled]
  rfl

theorem columnWidths_spec :
    (columnWidths header rows).length = header.length ∧
      ∀ row ∈ header :: rows, ∀ column ∈ (columnWidths header rows).zip (row.map Cell.ofText),
        column.2.width ≤ column.1 := by
  obtain ⟨hlength, hroom⟩ := widths_of_length ((header :: rows).map (·.map Cell.ofText)) (by simp)
    (n := header.length) (by simpa using hrows)
  exact ⟨hlength, fun row hrow => hroom _ (List.mem_map_of_mem hrow)⟩

include hne

theorem columnWidths_ne_nil : columnWidths header rows ≠ [] :=
  List.ne_nil_of_length_pos ((columnWidths_spec hrows).1 ▸ List.length_pos_iff.mpr hne)

theorem blockOf_spec {row : List String} (hrow : row ∈ header :: rows) :
    ShowsRow (borders style) (columnWidths header rows) row (blockOf style header rows row) ∧
      ∀ line ∈ blockOf style header rows row,
        isContent (borders style) line ∧ ∀ c ∈ line.toList, c ≠ '\n' := by
  obtain ⟨hlength, hroom⟩ := columnWidths_spec hrows
  have hrowlength : row.length = header.length := by
    rcases List.mem_cons.mp hrow with rfl | hrow
    · rfl
    · exact hrows row hrow
  have hrowne : row ≠ [] := List.ne_nil_of_length_pos
    (hrowlength ▸ List.length_pos_iff.mpr hne)
  have hwidths := hlength.trans hrowlength.symm
  have hshows := showsRow_block (borders style) hrowne hwidths (hroom row hrow)
  exact ⟨hshows, isContent_of_showsRow hrowne hwidths hshows⟩

theorem filter_lines : (lines style header rows).filter (isContent (borders style)) =
    ((header :: rows).map (blockOf style header rows)).flatten := by
  have hwidths := columnWidths_ne_nil hne hrows
  have hheader : (blockOf style header rows header).filter (isContent (borders style)) =
      blockOf style header rows header :=
    List.filter_eq_self.mpr fun line hline =>
      ((blockOf_spec hne hrows List.mem_cons_self).2 line hline).1
  have hblocks : ∀ row ∈ rows.map (·.map Cell.ofText),
      ∀ line ∈ block (borders style) (columnWidths header rows) row,
        isContent (borders style) line := by
    rw [List.forall_mem_map]
    exact fun row hrow line hline =>
      ((blockOf_spec hne hrows (List.mem_cons_of_mem header hrow)).2 line hline).1
  have hbody := filter_body hwidths hblocks
  have hrules {line : Option Line} (hline : line ∈ [(borders style).top,
      (borders style).belowHeader, (borders style).betweenRows, (borders style).bottom]) :
      (lineOf line (columnWidths header rows)).filter (isContent (borders style)) = [] :=
    filter_lineOf (Borders.mem_rules hline) hwidths
  rw [lines_eq hrows]
  simp only [List.filter_append, hheader, hbody, hrules, List.mem_cons, true_or, or_true,
    List.nil_append, List.append_nil, List.map_map, List.map_cons, List.flatten_cons]
  rfl

theorem content_or_rule_of_mem_lines :
    ∀ line ∈ lines style header rows,
      (isContent (borders style) line ∧ ∀ c ∈ line.toList, c ≠ '\n') ∨
      ∃ rule ∈ (borders style).rules, line = rule.write (columnWidths header rows) := by
  have hrules {line : Option Line} (hline : line ∈ [(borders style).top,
      (borders style).belowHeader, (borders style).betweenRows, (borders style).bottom]) :=
    content_or_rule_of_mem_lineOf (columnWidths header rows) (Borders.mem_rules hline)
  rw [lines_eq hrows]
  simp only [List.forall_mem_append]
  refine ⟨⟨⟨⟨?_, ?_⟩, ?_⟩, forall_mem_body ?_ ?_⟩, ?_⟩
  · exact fun line hline => .inr (hrules (by simp) line hline)
  · exact fun line hline => .inl ((blockOf_spec hne hrows List.mem_cons_self).2 line hline)
  · exact fun line hline => .inr (hrules (by simp) line hline)
  · exact fun line hline => .inr (hrules (by simp) line hline)
  · rw [List.forall_mem_map]
    exact fun row hrow line hline => .inl
      ((blockOf_spec hne hrows (List.mem_cons_of_mem header hrow)).2 line hline)
  · exact fun line hline => .inr (hrules (by simp) line hline)

theorem parts_render : Text.parts '\n' (render style header rows) = lines style header rows := by
  refine Text.parts_join rfl (fun hnil => ?_) fun line hline hbroken => ?_
  · have hblock : blockOf style header rows header = [] := by
      rw [lines_eq hrows] at hnil
      simp_all
    have hshows : ShowsRow (borders style) _ header (blockOf style header rows header) :=
      (blockOf_spec hne hrows List.mem_cons_self).1
    obtain ⟨text, -, htall⟩ := hshows.tallest
    rw [hblock, List.length_nil] at htall
    exact Text.parts_ne_nil '\n' text (List.eq_nil_of_length_eq_zero htall)
  · rcases content_or_rule_of_mem_lines hne hrows line hline with ⟨-, hchars⟩ | ⟨rule, hrule, rfl⟩
    · exact hchars _ hbroken rfl
    · exact (forall_mem_rule hrule _ _ hbroken).1 rfl

theorem contentLines_render :
    contentLines style (render style header rows) =
      ((header :: rows).map (blockOf style header rows)).flatten := by
  rw [contentLines, parts_render hne hrows, filter_lines hne hrows]

variable (style) in
theorem render_shows :
    ∃ (ws : List Nat) (blocks : List (List String)), ws.length = header.length ∧
      contentLines style (render style header rows) = blocks.flatten ∧
      List.Forall₂ (ShowsRow (borders style) ws) (header :: rows) blocks ∧
      ∀ line ∈ Text.parts '\n' (render style header rows),
        line ∉ contentLines style (render style header rows) →
        Text.width line = (ws.map (· + 2)).sum + ws.length + 1 := by
  refine ⟨columnWidths header rows, (header :: rows).map (blockOf style header rows),
    (columnWidths_spec hrows).1, contentLines_render hne hrows, ?_, fun line hline hother => ?_⟩
  · rw [List.forall₂_map_right_iff]
    exact List.forall₂_same.mpr fun row hrow => (blockOf_spec hne hrows hrow).1
  · have hline' := hline
    rw [parts_render hne hrows] at hline'
    rcases content_or_rule_of_mem_lines hne hrows line hline' with
      ⟨hcontent, -⟩ | ⟨rule, hrule, rfl⟩
    · exact absurd (List.mem_filter.mpr ⟨hline, hcontent⟩) hother
    · exact width_rule hrule (columnWidths_ne_nil hne hrows)

end Table

end Table

namespace Entity

/-- What stands at the head of a column: the label of the first column that is registered
by the name, or the name itself where none is. -/
inductive Heads (e : Entity) (name : ColumnName) : String → Prop
  | registered {before after : List Column} {c : Column}
      (hcolumns : e.columns = before ++ c :: after) (hname : c.name = name)
      (hfirst : ∀ other ∈ before, other.name ≠ name) : Heads e name c.label
  | unregistered (hnone : ∀ c ∈ e.columns, c.name ≠ name) : Heads e name name.text

theorem heads_label (e : Entity) (name : ColumnName) : e.Heads name (e.label name) := by
  unfold label
  cases hc : e.column? name with
  | none =>
      have hnone : ∀ c ∈ e.columns, c.name ≠ name := by
        simpa [column?] using hc
      exact .unregistered hnone
  | some c =>
      obtain ⟨hname, before, after, hcolumns, hfirst⟩ := List.find?_eq_some_iff_append.mp hc
      exact .registered hcolumns (of_decide_eq_true hname) (by simpa using hfirst)

theorem Heads.eq_label {e : Entity} {name : ColumnName} {text : String} (h : e.Heads name text) :
    text = e.label name := by
  unfold label
  cases h with
  | @registered before after c hcolumns hname hfirst =>
      have hbefore : ∀ other ∈ before, (!decide (other.name = name)) = true := by
        simpa using hfirst
      have hc : e.column? name = some c :=
        List.find?_eq_some_iff_append.mpr ⟨decide_eq_true hname, before, after, hcolumns, hbefore⟩
      rw [hc]
  | unregistered hnone =>
      have hc : e.column? name = none := by
        simpa [column?] using hnone
      rw [hc]

end Entity

/-- The texts among the members of an object, in order. -/
def Json.memberTexts : Json → List String
  | .obj ms => ms.filterMap fun m =>
    match m.2 with
    | .str text => some text
    | _ => none
  | _ => []

theorem Row.memberTexts_toJson (row : Row) : row.toJson.memberTexts = row.texts := by
  simp [Row.toJson, Json.memberTexts, Row.texts, List.filterMap_map]

/-- A table has a block of lines for its header and one for each row, in order, and these
show the registered labels and the texts that the objects of the JSON form have. The lines
apart from the blocks are as wide as the fields with a border beside each. -/
theorem render_table_shows (style : TableStyle) (e : Entity) {columns : List ColumnName}
    {rows : List Row} (hcolumns : columns ≠ [])
    (hrows : ∀ row ∈ rows, row.cells.length = columns.length) :
    render style .json e columns rows = (Json.arr (rows.map Row.toJson)).toIndentedText ∧
    ∃ (header : List String) (ws : List Nat) (blocks : List (List String)),
      List.Forall₂ e.Heads columns header ∧ ws.length = columns.length ∧
      Table.contentLines style (render style .table e columns rows) = blocks.flatten ∧
      List.Forall₂ (Table.ShowsRow (Table.borders style) ws)
        (header :: (rows.map Row.toJson).map Json.memberTexts) blocks ∧
      ∀ line ∈ Text.parts '\n' (render style .table e columns rows),
        line ∉ Table.contentLines style (render style .table e columns rows) →
        Text.width line = (ws.map (· + 2)).sum + ws.length + 1 := by
  refine ⟨rfl, ?_⟩
  have hheads : List.Forall₂ e.Heads columns (columns.map e.label) := by
    rw [List.forall₂_map_right_iff]
    exact List.forall₂_same.mpr fun name _ => e.heads_label name
  have hheader : columns.map e.label ≠ [] := by simpa using hcolumns
  have htexts : ∀ texts ∈ rows.map Row.texts, texts.length = (columns.map e.label).length := by
    simpa [Row.texts] using hrows
  have hmembers : (rows.map Row.toJson).map Json.memberTexts = rows.map Row.texts := by
    simp [Function.comp_def, Row.memberTexts_toJson]
  obtain ⟨ws, blocks, hlength, hcontent, hshows, hrules⟩ :=
    Table.render_shows style hheader htexts
  rw [List.length_map] at hlength
  exact ⟨_, ws, blocks, hheads, hlength, hcontent, hmembers ▸ hshows, hrules⟩

/-- Labels and texts of wide characters and of two lines. -/
theorem render_table_shows_wide :
    let columns := [ColumnName.ofText "username", ColumnName.ofText "email"]
    let rows : List Row := [⟨columns.zip ["日本", "a\nbc"]⟩]
    let e : Entity := ⟨.user,
      [⟨.ofText "username", ⟨["username"], by decide, by decide⟩, .text, "利用者名", .raw⟩,
        ⟨.ofText "email", ⟨["email"], by decide, by decide⟩, .text, "E-Mail\nAddress", .raw⟩],
      columns, [], [], none⟩
    let text := render .utf8 .table e columns rows
    ∃ ws blocks, ws.length = 2 ∧ Table.contentLines .utf8 text = blocks.flatten ∧
      List.Forall₂ (Table.ShowsRow (Table.borders .utf8) ws)
        [["利用者名", "E-Mail\nAddress"], ["日本", "a\nbc"]] blocks ∧
      Table.contentLines .utf8 text =
        ["│ 利用者名 ┆ E-Mail  │", "│          ┆ Address │",
          "│ 日本     ┆ a       │", "│          ┆ bc      │"] := by
  intro columns rows e text
  have hcolumns : columns ≠ [] := by decide
  have hrows : ∀ row ∈ rows, row.cells.length = columns.length := by decide
  obtain ⟨-, header, ws, blocks, hheads, hlength, hcontent, hshows, -⟩ :=
    render_table_shows .utf8 e hcolumns hrows
  have hlabels : columns.map e.label = ["利用者名", "E-Mail\nAddress"] := by decide
  have hheader : header = ["利用者名", "E-Mail\nAddress"] := by
    rw [← hlabels, ← List.forall₂_eq_eq_eq, List.forall₂_map_right_iff]
    exact hheads.flip.imp fun _ _ => Entity.Heads.eq_label
  have hlines : Table.contentLines .utf8 text =
      ["│ 利用者名 ┆ E-Mail  │", "│          ┆ Address │",
        "│ 日本     ┆ a       │", "│          ┆ bc      │"] := by
    have hwidths : Table.columnWidths ["利用者名", "E-Mail\nAddress"] [["日本", "a\nbc"]] =
        [8, 7] := by
      decide +kernel
    have htext : text = Table.render .utf8 ["利用者名", "E-Mail\nAddress"] [["日本", "a\nbc"]] :=
      congrArg (Table.render .utf8 · _) hlabels
    rw [htext, Table.contentLines_render (by simp) (by simp)]
    simp only [List.map_cons, Table.blockOf, hwidths]
    decide +kernel
  exact ⟨ws, blocks, hlength, hcontent, hheader ▸ hshows, hlines⟩

end RecordListing
