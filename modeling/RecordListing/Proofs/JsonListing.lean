import Mathlib.Data.List.Forall2
import Mathlib.Data.List.Nodup
import RecordListing.Rendering
import RecordListing.Source

namespace RecordListing

/-!
# Listings as JSON

What is written as a JSON array of rows is read back as the same rows. Strings undo
their escapes one character at a time; the indented layout only adds blanks, which the
reader passes over. The members of an object are written in display order and read
into the order of their keys.
-/

namespace Json

/-! ## Strings -/

theorem hexValue?_hexDigit : ∀ n < 16, hexValue? (hexDigit n) = some n := by decide

theorem utf8Size_hexDigit : ∀ n < 16, (hexDigit n).utf8Size = 1 := by decide

theorem hexUnit_hexDigit {a b : Nat} (ha : a < 16) (hb : b < 16) (rest : List Char) :
    hexUnit ('0' :: '0' :: hexDigit a :: hexDigit b :: rest) = .ok (16 * a + b, rest) := by
  have hcount : byteCount ['0', '0', hexDigit a, hexDigit b] = 4 := by
    simp [byteCount, utf8Size_hexDigit a ha, utf8Size_hexDigit b hb]
    decide
  have hzero : hexValue? '0' = some 0 := by decide
  simp only [hexUnit, List.take_succ_cons, List.take_zero, hcount, Nat.lt_irrefl, ↓reduceIte,
    hzero, hexValue?_hexDigit a ha, hexValue?_hexDigit b hb]
  congr 2
  omega

theorem escape_control {c : Char} (hc : c.toNat < 0x20) (rest : List Char) :
    escape ('u' :: '0' :: '0' :: hexDigit (c.toNat / 16) :: hexDigit (c.toNat % 16) :: rest) =
      .ok (c, rest) := by
  have hunit : 16 * (c.toNat / 16) + c.toNat % 16 = c.toNat := by omega
  have hlow : ¬ (0xDC00 ≤ c.toNat ∧ c.toNat ≤ 0xDFFF) := by omega
  have hhigh : ¬ (0xD800 ≤ c.toNat ∧ c.toNat ≤ 0xDBFF) := by omega
  have hread := hexUnit_hexDigit (a := c.toNat / 16) (b := c.toNat % 16) (by omega) (by omega) rest
  rw [hunit] at hread
  simp only [escape, hread, bind, Except.bind, hlow, hhigh, ↓reduceIte, Char.ofNat_toNat]

theorem stringChars_escape {c : Char} {cs rest : List Char} (h : escape cs = .ok (c, rest))
    (fuel : Nat) : stringChars (fuel + 1) ('\\' :: cs) =
      (stringChars fuel rest).map fun (ds, rest) => (c :: ds, rest) := by
  simp only [stringChars, h, bind, Except.bind]
  cases stringChars fuel rest <;> rfl

/-- An escaped character is read as the character. -/
theorem stringChars_escapedChar (c : Char) (fuel : Nat) (rest : List Char) :
    stringChars (fuel + 1) (escapedChar c ++ rest) =
      (stringChars fuel rest).map fun (ds, rest) => (c :: ds, rest) := by
  unfold escapedChar
  split
  · subst_vars
    exact stringChars_escape rfl fuel
  split
  · subst_vars
    exact stringChars_escape rfl fuel
  rename_i hquote hbackslash
  split
  · rename_i hcontrol
    split
    · have hc : c = '\x08' := Char.toNat_inj.mp (by assumption)
      subst hc
      exact stringChars_escape rfl fuel
    split
    · subst_vars
      exact stringChars_escape rfl fuel
    split
    · subst_vars
      exact stringChars_escape rfl fuel
    split
    · have hc : c = '\x0c' := Char.toNat_inj.mp (by assumption)
      subst hc
      exact stringChars_escape rfl fuel
    split
    · subst_vars
      exact stringChars_escape rfl fuel
    · exact stringChars_escape (escape_control hcontrol rest) fuel
  · rename_i hplain
    simp only [List.singleton_append, stringChars, hquote, hbackslash, hplain, ↓reduceIte, bind,
      Except.bind]
    cases stringChars fuel rest <;> rfl

theorem stringChars_escaped (cs : List Char) {fuel : Nat} (hfuel : cs.length < fuel)
    (rest : List Char) :
    stringChars fuel (cs.flatMap escapedChar ++ '"' :: rest) = .ok (cs, rest) := by
  induction cs generalizing fuel with
  | nil =>
      obtain ⟨fuel, rfl⟩ := Nat.exists_eq_succ_of_ne_zero (Nat.ne_zero_of_lt hfuel)
      rfl
  | cons c cs ih =>
      obtain ⟨fuel, rfl⟩ := Nat.exists_eq_succ_of_ne_zero (Nat.ne_zero_of_lt hfuel)
      have hshorter : cs.length < fuel := by simpa using hfuel
      rw [List.flatMap_cons, List.append_assoc, Nat.succ_eq_add_one, stringChars_escapedChar,
        ih hshorter]
      rfl

theorem escapedChar_ne_nil (c : Char) : escapedChar c ≠ [] := by
  unfold escapedChar
  repeat' split
  all_goals simp

theorem length_le_flatMap_escapedChar (cs : List Char) :
    cs.length ≤ (cs.flatMap escapedChar).length := by
  induction cs with
  | nil => simp
  | cons c cs ih =>
      have hpos : 0 < (escapedChar c).length := List.length_pos_iff.mpr (escapedChar_ne_nil c)
      simp only [List.flatMap_cons, List.length_append, List.length_cons]
      omega

theorem string_escaped (s : String) (rest : List Char) :
    string (s.toList.flatMap escapedChar ++ '"' :: rest) = .ok (s, rest) := by
  have hfuel : s.toList.length < (s.toList.flatMap escapedChar ++ '"' :: rest).length := by
    have := length_le_flatMap_escapedChar s.toList
    simp only [List.length_append, List.length_cons]
    omega
  simp only [string, stringChars_escaped s.toList hfuel rest, bind, Except.bind,
    String.ofList_toList]

/-! ## Layout -/

theorem skipBlank_newLine (depth : Nat) (cs : List Char) :
    skipBlank (newLine depth ++ cs) = skipBlank cs := by
  have hblanks (n : Nat) : skipBlank (List.replicate n ' ' ++ cs) = skipBlank cs := by
    induction n with
    | zero => rfl
    | succ n ih => simpa [List.replicate_succ, skipBlank] using ih
  simpa [newLine, skipBlank] using hblanks (2 * depth)

/-- Further parts on lines of their own, each behind a comma, and the closing bracket. -/
def furtherParts (depth : Nat) (closing : Char) : List (List Char) → List Char
  | [] => newLine depth ++ [closing]
  | p :: ps => ',' :: (newLine (depth + 1) ++ p ++ furtherParts depth closing ps)

/-- Parts, one after the other, between brackets that stand `depth` steps in. -/
def enclosed (depth : Nat) (opening closing : Char) : List (List Char) → List Char
  | [] => [opening, closing]
  | p :: ps => opening :: (newLine (depth + 1) ++ p ++ furtherParts depth closing ps)

/-- A member with its key in front. -/
def memberText (depth : Nat) (m : String × Json) : List Char :=
  quotedText m.1 ++ ':' :: ' ' :: indented depth m.2

theorem indentedItems_eq (depth : Nat) (vs : List Json) :
    indentedItems depth vs = furtherParts depth ']' (vs.map (indented (depth + 1))) := by
  induction vs with
  | nil => rfl
  | cons v vs ih => simp [indentedItems, furtherParts, ih]

theorem indented_arr (depth : Nat) (vs : List Json) :
    indented depth (.arr vs) = enclosed depth '[' ']' (vs.map (indented (depth + 1))) := by
  cases vs with
  | nil => rfl
  | cons v vs => simp [indented, enclosed, indentedItems_eq]

theorem indentedMembers_eq (depth : Nat) (ms : Members) :
    indentedMembers depth ms = furtherParts depth '\x7d' (ms.map (memberText (depth + 1))) := by
  induction ms with
  | nil => rfl
  | cons m ms ih => simp [indentedMembers, furtherParts, memberText, ih]

theorem indented_obj (depth : Nat) (ms : Members) :
    indented depth (.obj ms) = enclosed depth '\x7b' '\x7d' (ms.map (memberText (depth + 1))) := by
  cases ms with
  | nil => rfl
  | cons m ms => simp [indented, enclosed, memberText, indentedMembers_eq]

/-- A reader takes a text for a value, whatever follows. -/
def Reads {α : Type} (read : List Char → Outcome (α × List Char)) (text : List Char) (a : α) :
    Prop :=
  ∀ rest, read (text ++ rest) = .ok (a, rest)

/-- Something other than blanks and a closing bracket comes first. -/
def Opens (text : List Char) : Prop :=
  ∃ c cs, text = c :: cs ∧ c ≠ ']' ∧ ∀ rest, skipBlank (c :: rest) = c :: rest

theorem reads_quotedText (depth : Nat) (s : String) :
    Reads (value depth) (' ' :: quotedText s) (.str s) := by
  intro rest
  have hstring := string_escaped s rest
  unfold value
  simp only [quotedText, List.cons_append, skipBlank, List.append_assoc, List.nil_append,
    true_or, ↓reduceIte]
  simp [hstring, bind, Except.bind]

theorem Reads.behindBlank {depth : Nat} {text : List Char} {v : Json}
    (h : Reads (value depth) text v) : Reads (value depth) (' ' :: text) v := by
  intro rest
  have hskip : value depth (' ' :: (text ++ rest)) = value depth (text ++ rest) := by
    unfold value
    rfl
  exact hskip.trans (h rest)

section Plain

variable {d depth : Nat}

theorem reads_null : Reads (value d) (indented depth .null) .null := by
  intro rest
  unfold value
  rfl

theorem reads_bool (b : Bool) : Reads (value d) (indented depth (.bool b)) (.bool b) := by
  intro rest
  unfold value
  cases b <;> rfl

theorem reads_str (s : String) : Reads (value d) (indented depth (.str s)) (.str s) := by
  intro rest
  have hread := reads_quotedText d s rest
  unfold value at hread ⊢
  exact hread

end Plain

/-! ## Lists -/

section Lists

variable {α : Type} {item : List Char → Outcome (α × List Char)} {depth : Nat}

theorem Opens.skipBlank_newLine {text : List Char} (h : Opens text) (depth : Nat)
    (rest : List Char) :
    skipBlank (newLine depth ++ (text ++ rest)) = text ++ rest := by
  obtain ⟨c, cs, rfl, -, hblank⟩ := h
  rw [Json.skipBlank_newLine, List.cons_append, hblank]

theorem nextItem_newLine {text : List Char} (h : Opens text) (depth : Nat) (rest : List Char) :
    nextItem true (newLine depth ++ (text ++ rest)) = .ok (.entry (text ++ rest)) := by
  have hskip := h.skipBlank_newLine depth rest
  obtain ⟨c, cs, rfl, hc, -⟩ := h
  rw [List.cons_append] at hskip ⊢
  simp [nextItem, hskip]

theorem nextItem_comma {text : List Char} (h : Opens text) (rest : List Char) :
    nextItem false (',' :: (newLine depth ++ (text ++ rest))) = .ok (.entry (text ++ rest)) := by
  have hcomma (cs : List Char) : skipBlank (',' :: cs) = ',' :: cs := rfl
  have hskip := h.skipBlank_newLine depth rest
  obtain ⟨c, cs, rfl, hc, -⟩ := h
  rw [List.cons_append] at hskip ⊢
  simp [nextItem, hcomma, hskip, hc]

theorem nextItem_closing (first : Bool) (rest : List Char) :
    nextItem first (newLine depth ++ ']' :: rest) = .ok (.closed rest) := by
  unfold nextItem
  rw [skipBlank_newLine]
  rfl

theorem items_of_closed {first : Bool} {cs rest : List Char} (fuel : Nat)
    (h : nextItem first cs = .ok (.closed rest)) :
    items item (fuel + 1) first cs = .ok ([], rest) := by
  simp only [items, h, bind, Except.bind]

theorem items_of_entry {first : Bool} {cs rest rest' rest'' : List Char} {a : α} {as : List α}
    {fuel : Nat} (h : nextItem first cs = .ok (.entry rest)) (hitem : item rest = .ok (a, rest'))
    (hitems : items item fuel false rest' = .ok (as, rest'')) :
    items item (fuel + 1) first cs = .ok (a :: as, rest'') := by
  simp only [items, h, hitem, hitems, bind, Except.bind]

theorem items_furtherParts {texts : List (List Char)} {as : List α}
    (h : List.Forall₂ (fun text a => Opens text ∧ Reads item text a) texts as) {fuel : Nat}
    (hfuel : texts.length < fuel) (rest : List Char) :
    items item fuel false (furtherParts depth ']' texts ++ rest) = .ok (as, rest) := by
  induction h generalizing fuel with
  | nil =>
      obtain ⟨fuel, rfl⟩ := Nat.exists_eq_succ_of_ne_zero (Nat.ne_zero_of_lt hfuel)
      apply items_of_closed
      simpa [furtherParts] using nextItem_closing false rest
  | @cons text a texts as htext _ ih =>
      obtain ⟨fuel, rfl⟩ := Nat.exists_eq_succ_of_ne_zero (Nat.ne_zero_of_lt hfuel)
      have hshorter : texts.length < fuel := by simpa using hfuel
      refine items_of_entry ?_ (htext.2 _) (ih hshorter)
      simpa [furtherParts] using nextItem_comma htext.1 (furtherParts depth ']' texts ++ rest)

theorem length_lt_furtherParts (depth : Nat) (closing : Char) (texts : List (List Char)) :
    texts.length < (furtherParts depth closing texts).length := by
  induction texts with
  | nil => simp [furtherParts]
  | cons text texts ih =>
      simp only [furtherParts, List.length_cons, List.length_append]
      omega

theorem value_of_items {d : Nat} {cs rest : List Char} {vs : List Json}
    (h : items (value d) (cs.length + 1) true cs = .ok (vs, rest)) :
    value (d + 1) ('[' :: cs) = .ok (.arr vs, rest) := by
  have hblank : skipBlank ('[' :: cs) = '[' :: cs := rfl
  unfold value
  simp [hblank, h, bind, Except.bind]

theorem reads_arr {texts : List (List Char)} {vs : List Json} {d : Nat}
    (h : List.Forall₂ (fun text v => Opens text ∧ Reads (value d) text v) texts vs) :
    Reads (value (d + 1)) (enclosed depth '[' ']' texts) (.arr vs) := by
  intro rest
  cases h with
  | nil =>
      apply value_of_items
      exact items_of_closed _ rfl
  | @cons text v texts vs htext htexts =>
      have hnext := nextItem_newLine htext.1 (depth + 1)
        (furtherParts depth ']' texts ++ rest)
      have hlength := length_lt_furtherParts depth ']' texts
      apply value_of_items
      refine items_of_entry (by simpa using hnext) (htext.2 _) (items_furtherParts htexts ?_ rest)
      simp only [List.append_eq, List.length_append]
      omega

end Lists

/-! ## Objects -/

section Objects

variable {read : List Char → Outcome (Json × List Char)} {depth : Nat}

theorem nextMember_newLine (rest : List Char) :
    nextMember true (newLine depth ++ '"' :: rest) = .ok (.entry rest) := by
  unfold nextMember
  rw [skipBlank_newLine]
  rfl

theorem nextMember_comma (rest : List Char) :
    nextMember false (',' :: (newLine depth ++ '"' :: rest)) = .ok (.entry rest) := by
  have hcomma (cs : List Char) : skipBlank (',' :: cs) = ',' :: cs := rfl
  have hquote : skipBlank ('"' :: rest) = '"' :: rest := rfl
  simp [nextMember, hcomma, skipBlank_newLine, hquote]

theorem nextMember_closing (first : Bool) (rest : List Char) :
    nextMember first (newLine depth ++ '\x7d' :: rest) = .ok (.closed rest) := by
  unfold nextMember
  rw [skipBlank_newLine]
  rfl

theorem members_of_closed {first : Bool} {cs rest : List Char} (fuel : Nat) (acc : Members)
    (h : nextMember first cs = .ok (.closed rest)) :
    members read (fuel + 1) first acc cs = .ok (acc, rest) := by
  simp only [members, h, bind, Except.bind]

/-- A member whose key and value are read goes into those before it. -/
theorem members_of_entry {first : Bool} {cs rest : List Char} {m : String × Json}
    {fuel : Nat} {acc : Members}
    (h : nextMember first cs = .ok (.entry
      (m.1.toList.flatMap escapedChar ++ '"' :: ':' :: ' ' :: (indented depth m.2 ++ rest))))
    (hread : Reads read (' ' :: indented depth m.2) m.2) :
    members read (fuel + 1) first acc cs =
      members read fuel false (Keyed.put m.1 m.2 acc) rest := by
  have hcolon (cs : List Char) : colon (':' :: cs) = .ok cs := rfl
  have hvalue := hread rest
  rw [List.cons_append] at hvalue
  simp only [members, h, string_escaped, hcolon, hvalue, bind, Except.bind]

theorem members_furtherParts {ms : Members}
    (h : ∀ m ∈ ms, Reads read (' ' :: indented (depth + 1) m.2) m.2) {fuel : Nat}
    (hfuel : ms.length < fuel) (acc : Members) (rest : List Char) :
    members read fuel false acc
        (furtherParts depth '\x7d' (ms.map (memberText (depth + 1))) ++ rest) =
      .ok (Keyed.putAll ms acc, rest) := by
  induction ms generalizing fuel acc with
  | nil =>
      obtain ⟨fuel, rfl⟩ := Nat.exists_eq_succ_of_ne_zero (Nat.ne_zero_of_lt hfuel)
      apply members_of_closed
      simpa [furtherParts] using nextMember_closing false rest
  | cons m ms ih =>
      obtain ⟨fuel, rfl⟩ := Nat.exists_eq_succ_of_ne_zero (Nat.ne_zero_of_lt hfuel)
      have hshorter : ms.length < fuel := by simpa using hfuel
      rw [Nat.succ_eq_add_one, members_of_entry ?_ (h m List.mem_cons_self),
        ih (fun m hm => h m (List.mem_cons_of_mem _ hm)) hshorter, Keyed.putAll_cons]
      simpa [furtherParts, memberText, quotedText] using nextMember_comma _

theorem value_of_members {d : Nat} {cs rest : List Char} {ms : Members}
    (h : members (value d) (cs.length + 1) true [] cs = .ok (ms, rest)) :
    value (d + 1) ('\x7b' :: cs) = .ok (.obj ms, rest) := by
  have hblank : skipBlank ('\x7b' :: cs) = '\x7b' :: cs := rfl
  unfold value
  simp [hblank, h, bind, Except.bind]

/-- Members are read one after the other, whatever their order. -/
theorem reads_obj {ms : Members} {d : Nat}
    (h : ∀ m ∈ ms, Reads (value d) (' ' :: indented (depth + 1) m.2) m.2) :
    Reads (value (d + 1)) (enclosed depth '\x7b' '\x7d' (ms.map (memberText (depth + 1))))
      (.obj (Keyed.putAll ms [])) := by
  intro rest
  cases ms with
  | nil =>
      apply value_of_members
      exact members_of_closed _ _ rfl
  | cons m ms =>
      have hlength := length_lt_furtherParts depth '\x7d' (ms.map (memberText (depth + 1)))
      rw [List.length_map] at hlength
      apply value_of_members
      rw [members_of_entry ?_ (h m List.mem_cons_self),
        members_furtherParts (fun m hm => h m (List.mem_cons_of_mem _ hm)) ?_, Keyed.putAll_cons]
      · simp only [List.append_eq, List.length_append]
        omega
      · simpa [memberText, quotedText] using nextMember_newLine _

theorem opens_obj (ms : Members) : Opens (indented depth (.obj ms)) := by
  rw [indented_obj]
  cases ms.map (memberText (depth + 1)) with
  | nil => exact ⟨'\x7b', _, rfl, by decide, fun _ => rfl⟩
  | cons text texts => exact ⟨'\x7b', _, rfl, by decide, fun _ => rfl⟩

end Objects

section Values

variable {d depth : Nat}

theorem reads_indented_arr {vs : List Json}
    (h : ∀ v ∈ vs, Opens (indented (depth + 1) v) ∧ Reads (value d) (indented (depth + 1) v) v) :
    Reads (value (d + 1)) (indented depth (.arr vs)) (.arr vs) := by
  rw [indented_arr]
  apply reads_arr
  rw [List.forall₂_map_left_iff]
  exact List.forall₂_same.mpr h

/-- Members in the order of their keys are read into that order. -/
theorem reads_indented_obj {ms : Members} (hkeys : (ms.map (·.1)).Pairwise (· < ·))
    (h : ∀ m ∈ ms, Reads (value d) (indented (depth + 1) m.2) m.2) :
    Reads (value (d + 1)) (indented depth (.obj ms)) (.obj ms) := by
  have hread := @reads_obj depth ms d fun m hm => (h m hm).behindBlank
  rwa [Keyed.putAll_of_ascending hkeys, List.nil_append, ← indented_obj] at hread

theorem ofText_of_reads {v w : Json} (h : Reads (value depthLimit) (indented 0 v) w) :
    ofText v.toIndentedText = .ok w := by
  have hread := h []
  rw [List.append_nil] at hread
  simp only [ofText, whole, toIndentedText, String.toList_ofList, hread, bind, Except.bind]
  rfl

end Values

end Json

/-! ## Rows -/

namespace Row

/-- The members of a row's object, in display order. -/
def members (row : Row) : Json.Members := row.cells.map fun (name, text) => (name.text, .str text)

theorem toJson_eq (row : Row) : row.toJson = .obj row.members := rfl

theorem nodup_keys_members {row : Row} (h : (row.cells.map (·.1)).Nodup) :
    (row.members.map (·.1)).Nodup := by
  have hkeys : row.members.map (·.1) = (row.cells.map (·.1)).map ColumnName.text := by
    simp [members, Function.comp_def]
  rw [hkeys]
  exact List.Nodup.map (fun _ _ => ColumnName.text_injective) h

theorem get?_members (row : Row) (key : String) :
    Keyed.get? key row.members =
      (row.cells.find? (·.1.text = key)).map fun (_, text) => .str text := by
  unfold members
  induction row.cells with
  | nil => rfl
  | cons cell cells ih =>
      by_cases hkey : cell.1.text = key
      · simp [Keyed.get?, hkey]
      · simpa [Keyed.get?, hkey] using ih

theorem reads_toJson (row : Row) (d depth : Nat) :
    Json.Reads (Json.value (d + 1)) (row.toJson.indented depth)
      (.obj (Keyed.putAll row.members [])) := by
  rw [toJson_eq, Json.indented_obj]
  apply Json.reads_obj
  intro m hm
  obtain ⟨cell, -, rfl⟩ := List.mem_map.mp hm
  exact Json.reads_quotedText d cell.2

theorem opens_toJson (row : Row) (depth : Nat) : Json.Opens (row.toJson.indented depth) := by
  rw [toJson_eq]
  exact Json.opens_obj row.members

end Row

theorem recordsOfText_toIndentedText (rows : List Row) :
    recordsOfText (Json.arr (rows.map Row.toJson)).toIndentedText =
      .ok (rows.map fun row => .obj (Keyed.putAll row.members [])) := by
  have hrows : List.Forall₂ (fun text v => Json.Opens text ∧ Json.Reads (Json.value 126) text v)
      ((rows.map Row.toJson).map (Json.indented 1))
      (rows.map fun row => .obj (Keyed.putAll row.members [])) := by
    simp only [List.forall₂_map_left_iff, List.forall₂_map_right_iff]
    exact List.forall₂_same.mpr fun row _ => ⟨row.opens_toJson 1, row.reads_toJson 125 1⟩
  -- An array of objects takes two of the levels that the reader has.
  have hread : Json.Reads (Json.value 127) ((Json.arr (rows.map Row.toJson)).indented 0)
      (.arr (rows.map fun row => .obj (Keyed.putAll row.members []))) := by
    rw [Json.indented_arr]
    exact Json.reads_arr hrows
  simp only [recordsOfText, Json.ofText_of_reads hread]

/-- Rows written as JSON are read back: one record for each row, in order, which has the
cells of the row under the names of their columns and nothing else. In the text the
members stand in display order. -/
theorem recordsOfText_render_json (style : TableStyle) (e : Entity) (columns : List ColumnName)
    {rows : List Row} (hnames : ∀ row ∈ rows, (row.cells.map (·.1)).Nodup) :
    (∃ records, recordsOfText (render style .json e columns rows) = .ok records ∧
      List.Forall₂ (fun row record => ∃ ms : Json.Members, record = .obj ms ∧
        ms.Perm (row.cells.map fun (name, text) => (name.text, .str text)) ∧
        ∀ key, Keyed.get? key ms =
          (row.cells.find? (·.1.text = key)).map fun (_, text) => .str text) rows records) ∧
    (render style .json e columns rows).toList =
      Json.enclosed 0 '[' ']' (rows.map fun row =>
        Json.enclosed 1 '\x7b' '\x7d' (row.cells.map fun (name, text) =>
          Json.quotedText name.text ++ [':', ' '] ++ Json.quotedText text)) := by
  constructor
  · refine ⟨_, recordsOfText_toIndentedText rows, ?_⟩
    rw [List.forall₂_map_right_iff]
    refine List.forall₂_same.mpr fun row hrow => ⟨_, rfl, ?_⟩
    have hnodup := row.nodup_keys_members (hnames row hrow)
    have hperm : (Keyed.putAll row.members []).Perm row.members := by
      rw [← List.append_nil row.members] at hnodup
      simpa using Keyed.putAll_perm hnodup
    refine ⟨hperm, fun key => ?_⟩
    rw [Keyed.get?_eq_of_perm ((hperm.map (·.1)).nodup_iff.mpr hnodup) hperm, row.get?_members]
  · have hrow (row : Row) : row.toJson.indented 1 = Json.enclosed 1 '\x7b' '\x7d'
        (row.cells.map fun (name, text) =>
          Json.quotedText name.text ++ [':', ' '] ++ Json.quotedText text) := by
      rw [row.toJson_eq, Json.indented_obj]
      simp [Row.members, Json.memberText, Json.indented, Function.comp_def]
    simp [render, Json.toIndentedText, Json.indented_arr, hrow, Function.comp_def]

/-- A row whose columns stand in no order, with texts that need escapes. -/
theorem recordsOfText_render_json_escapes :
    let e : Entity := ⟨.user, [], [], [], [], none⟩
    let rows : List Row := [⟨[(.ofText "username", "a\"b\\\n\x01é"), (.ofText "email", "")]⟩]
    ∃ ms, recordsOfText (render .plain .json e [] rows) = .ok [.obj ms] ∧
      Keyed.get? "username" ms = some (.str "a\"b\\\n\x01é") ∧
      Keyed.get? "email" ms = some (.str "") ∧ Keyed.get? "id" ms = none := by
  intro e rows
  have hnames : ∀ row ∈ rows, (row.cells.map (·.1)).Nodup := by
    decide
  obtain ⟨⟨records, hrecords, hrows⟩, -⟩ := recordsOfText_render_json .plain e [] hnames
  obtain ⟨record, records, ⟨ms, rfl, -, hget⟩, hnil, rfl⟩ := List.forall₂_cons_left_iff.mp hrows
  rw [List.forall₂_nil_left_iff] at hnil
  subst hnil
  have husername : (ColumnName.ofText "username").text = "username" := by decide
  have hemail : (ColumnName.ofText "email").text = "email" := by decide
  refine ⟨ms, hrecords, ?_, ?_, ?_⟩ <;> rw [hget] <;> simp [husername, hemail]

end RecordListing
