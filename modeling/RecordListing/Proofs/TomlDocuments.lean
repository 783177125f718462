import Mathlib
import RecordListing.Proofs.TomlTexts
import RecordListing.Settings.TomlForm

namespace RecordListing.Toml

/-!
# Written sections read back

A document of sections is read line by line. Each header opens its table and each entry adds
a value to the table that is open; empty lines between sections do not matter.
-/

/-! ## Blanks and line ends -/

/-- Something stands next that is no blank, no comment, no line end and no closing bracket. -/
def Opens (cs : List Char) : Prop :=
  ∃ c more, cs = c :: more ∧ c ∉ [' ', '\t', '\n', '\r', '#', ']']

theorem Opens.append {cs : List Char} (h : Opens cs) (rest : List Char) : Opens (cs ++ rest) := by
  obtain ⟨c, more, rfl, hc⟩ := h
  exact ⟨c, more ++ rest, rfl, hc⟩

theorem Opens.skipBlank {cs : List Char} (h : Opens cs) : skipBlank cs = cs := by
  obtain ⟨c, more, rfl, hc⟩ := h
  simp only [List.mem_cons, List.not_mem_nil, or_false, not_or] at hc
  simp [Toml.skipBlank, hc]

theorem Opens.skipLines {cs : List Char} (h : Opens cs) (fuel : Nat) :
    skipLines fuel cs = cs := by
  cases fuel with
  | zero => rfl
  | succ fuel =>
      rw [Toml.skipLines, h.skipBlank]
      obtain ⟨c, more, rfl, hc⟩ := h
      simp only [List.mem_cons, List.not_mem_nil, or_false, not_or] at hc
      have hcomment : skipComment (c :: more) = c :: more := by simp [skipComment, hc]
      have hline : lineEnd? (c :: more) = none := by simp [lineEnd?, hc]
      simp only [hcomment, hline]

theorem skipLines_lineEnd (fuel : Nat) (cs : List Char) :
    skipLines (fuel + 1) ('\n' :: cs) = skipLines fuel cs := rfl

theorem skipLines_replicate (n : Nat) (cs : List Char) :
    skipLines ((List.replicate n '\n' ++ cs).length + 1) (List.replicate n '\n' ++ cs) =
      skipLines (cs.length + 1) cs := by
  induction n with
  | zero => rfl
  | succ n ih =>
      rw [List.replicate_succ, List.cons_append, List.length_cons, skipLines_lineEnd]
      exact ih

theorem opens_textForm (s : String) : Opens (textForm s).toList := by
  obtain ⟨quote, body, hform, hquote⟩ := exists_quote_textForm s
  refine ⟨quote, body, hform, ?_⟩
  rcases hquote with rfl | rfl <;> decide

theorem opens_keyForm (s : String) : Opens (keyForm s).toList := by
  obtain ⟨c, cs, hform, hc⟩ := exists_first_keyForm s
  exact ⟨c, cs, hform, fun hmem => hc (List.mem_append_left ['['] hmem)⟩

/-! ## Values -/

/-- A text is read as a value, whatever follows that is no quote, and has no other line ends
than `'\n'`. -/
structure Shows (depth : Nat) (text : List Char) (v : Toml) : Prop where
  read : ∀ rest, EndsText rest → '\r' ∉ rest → value? depth (text ++ rest) = some (v, rest)
  noReturn : '\r' ∉ text
  opens : Opens text

theorem shows_textForm (depth : Nat) (s : String) : Shows depth (textForm s).toList (.text s) where
  read rest hrest hreturn := by
    have hread := string?_textForm s hrest hreturn
    obtain ⟨quote, body, hform, hquote⟩ := exists_quote_textForm s
    rw [hform, List.cons_append] at hread ⊢
    rcases hquote with rfl | rfl
    · rw [value?, hread]
    · rw [value?, hread]
  noReturn := return_not_mem_textForm s
  opens := opens_textForm s

theorem shows_switchForm (depth : Nat) (b : Bool) :
    Shows depth (switchForm b).toList (.bool b) where
  read rest _ _ := by cases b <;> simp [switchForm, value?]
  noReturn := by cases b <;> decide
  opens := by
    cases b
    · exact ⟨'f', _, rfl, by decide⟩
    · exact ⟨'t', _, rfl, by decide⟩

/-! ## Arrays -/

/-- Items on lines of their own, and the closing bracket. -/
def itemLines : List (List Char) → List Char
  | [] => ['\n', ']']
  | v :: vs => '\n' :: ' ' :: ' ' :: ' ' :: ' ' :: (v ++ ',' :: itemLines vs)

theorem toList_foldl_items (vs : List String) (acc : String) :
    (vs.foldl (fun acc v => acc ++ "    " ++ v ++ ",\n") acc).toList =
      acc.toList ++ vs.flatMap fun v => ' ' :: ' ' :: ' ' :: ' ' :: (v.toList ++ [',', '\n']) := by
  induction vs generalizing acc with
  | nil => simp
  | cons v vs ih =>
      rw [List.foldl_cons, ih]
      simp

theorem lineEnd_flatMap_items (vs : List String) :
    '\n' :: ((vs.flatMap fun v => ' ' :: ' ' :: ' ' :: ' ' :: (v.toList ++ [',', '\n'])) ++ [']']) =
      itemLines (vs.map String.toList) := by
  induction vs with
  | nil => rfl
  | cons v vs ih => simp [itemLines, ← ih]

theorem toList_arrayForm (v w : String) (vs : List String) :
    (arrayForm (v :: w :: vs)).toList = '[' :: itemLines ((v :: w :: vs).map String.toList) := by
  rw [← lineEnd_flatMap_items]
  simp only [arrayForm, String.toList_append, toList_foldl_items]
  rfl

theorem return_not_mem_itemLines {texts : List (List Char)} (h : ∀ text ∈ texts, '\r' ∉ text) :
    '\r' ∉ itemLines texts := by
  induction texts with
  | nil => decide
  | cons v vs ih =>
      rw [List.forall_mem_cons] at h
      simp [itemLines, h.1, ih h.2]

theorem length_le_itemLines (texts : List (List Char)) :
    texts.length ≤ (itemLines texts).length := by
  induction texts with
  | nil => exact Nat.zero_le _
  | cons v vs ih =>
      simp only [itemLines, List.length_cons, List.length_append]
      omega

theorem noReturn_of_forall₂ {depth : Nat} {texts : List (List Char)} {values : List Toml}
    (h : List.Forall₂ (Shows depth) texts values) : ∀ text ∈ texts, '\r' ∉ text := by
  induction h with
  | nil => exact fun text hmem => absurd hmem List.not_mem_nil
  | cons hv _ ih => exact List.forall_mem_cons.mpr ⟨hv.noReturn, ih⟩

theorem endsText_comma (rest : List Char) : EndsText (',' :: rest) := by
  constructor <;> simp

theorem endsText_bracket (rest : List Char) : EndsText (']' :: rest) := by
  constructor <;> simp

theorem endsText_lineEnd (rest : List Char) : EndsText ('\n' :: rest) := by
  constructor <;> simp

theorem skipLines_blank (fuel : Nat) (cs : List Char) :
    skipLines (fuel + 1) (' ' :: cs) = skipLines (fuel + 1) cs := rfl

section Items

variable {value : List Char → Option (Toml × List Char)} {cs cs' rest : List Char} {v : Toml}
    (hskip : skipLines (cs.length + 1) cs = cs') (hopens : Opens cs')
    (hvalue : value cs' = some (v, rest))
include hskip hopens hvalue

theorem items?_comma {more : List Char} (hrest : skipLines (rest.length + 1) rest = ',' :: more)
    (fuel : Nat) :
    items? value (fuel + 1) cs =
      (items? value fuel more).map fun (vs, more) => (v :: vs, more) := by
  obtain ⟨c, others, rfl, hc⟩ := hopens
  have hclosing : c ≠ ']' := by
    rintro rfl
    simp at hc
  simp only [items?, hskip]
  split
  · rename_i heq
    exact absurd (List.cons.inj heq).1 hclosing
  · simp only [hvalue, hrest, Option.bind_eq_bind, Option.bind_some, Option.pure_def]
    cases items? value fuel more <;> rfl

theorem items?_last {more : List Char} (hrest : skipLines (rest.length + 1) rest = ']' :: more)
    (fuel : Nat) : items? value (fuel + 1) cs = some ([v], more) := by
  obtain ⟨c, others, rfl, hc⟩ := hopens
  have hclosing : c ≠ ']' := by
    rintro rfl
    simp at hc
  simp only [items?, hskip]
  split
  · rename_i heq
    exact absurd (List.cons.inj heq).1 hclosing
  · simp only [hvalue, hrest, Option.bind_eq_bind, Option.bind_some, Option.pure_def]

end Items

theorem items?_itemLines {depth : Nat} {texts : List (List Char)} {values : List Toml}
    (h : List.Forall₂ (Shows depth) texts values) {fuel : Nat} (hfuel : texts.length < fuel)
    {rest : List Char} (hreturn : '\r' ∉ rest) :
    items? (value? depth) fuel (itemLines texts ++ rest) = some (values, rest) := by
  induction h generalizing fuel with
  | nil =>
      obtain ⟨fuel, rfl⟩ := Nat.exists_eq_succ_of_ne_zero (Nat.ne_zero_of_lt hfuel)
      rfl
  | @cons v value vs values hv hvs ih =>
      obtain ⟨fuel, rfl⟩ := Nat.exists_eq_succ_of_ne_zero (Nat.ne_zero_of_lt hfuel)
      have htail : '\r' ∉ ',' :: (itemLines vs ++ rest) := by
        have hitems := return_not_mem_itemLines (noReturn_of_forall₂ hvs)
        simp [hitems, hreturn]
      have hread := hv.read (',' :: (itemLines vs ++ rest)) (endsText_comma _) htail
      have hrest := ih (by simpa using hfuel : vs.length < fuel)
      have htext : itemLines (v :: vs) ++ rest =
          '\n' :: ' ' :: ' ' :: ' ' :: ' ' :: (v ++ ',' :: (itemLines vs ++ rest)) := by
        simp [itemLines]
      have hopens : Opens (v ++ ',' :: (itemLines vs ++ rest)) := hv.opens.append _
      have hskip : skipLines (('\n' :: ' ' :: ' ' :: ' ' :: ' ' ::
          (v ++ ',' :: (itemLines vs ++ rest))).length + 1) ('\n' :: ' ' :: ' ' :: ' ' :: ' ' ::
          (v ++ ',' :: (itemLines vs ++ rest))) = v ++ ',' :: (itemLines vs ++ rest) := by
        rw [List.length_cons, List.length_cons, skipLines_lineEnd, skipLines_blank,
          skipLines_blank, skipLines_blank, skipLines_blank]
        exact hopens.skipLines _
      have hcomma : Opens (',' :: (itemLines vs ++ rest)) := ⟨',', _, rfl, by decide⟩
      rw [htext, Nat.succ_eq_add_one, items?_comma hskip hopens hread (hcomma.skipLines _), hrest]
      rfl

theorem items?_arrayForm {depth : Nat} {texts : List String} {values : List Toml}
    (h : List.Forall₂ (Shows depth) (texts.map String.toList) values) :
    ∃ body, (arrayForm texts).toList = '[' :: body ∧ '\r' ∉ body ∧
      ∀ rest, '\r' ∉ rest → items? (value? depth) ((body ++ rest).length + 1) (body ++ rest) =
        some (values, rest) := by
  match texts, h with
  | [], .nil => exact ⟨[']'], rfl, by decide, fun rest _ => rfl⟩
  | [first], .cons hv .nil =>
      refine ⟨first.toList ++ [']'], by simp [arrayForm], by simp [hv.noReturn],
        fun rest hreturn => ?_⟩
      have hform : first.toList ++ [']'] ++ rest = first.toList ++ ']' :: rest := by simp
      have hread := hv.read (']' :: rest) (endsText_bracket rest) (by simp [hreturn])
      have hopens : Opens (first.toList ++ ']' :: rest) := hv.opens.append _
      have hclosing : skipLines ((']' :: rest).length + 1) (']' :: rest) = ']' :: rest := rfl
      rw [hform]
      exact items?_last (hopens.skipLines _) hopens hread hclosing _
  | first :: second :: others, h =>
      refine ⟨_, toList_arrayForm first second others,
        return_not_mem_itemLines (noReturn_of_forall₂ h), fun rest hreturn => ?_⟩
      refine items?_itemLines h ?_ hreturn
      have hitems := length_le_itemLines ((first :: second :: others).map String.toList)
      rw [List.length_append]
      omega

/-- An array of texts is read back from the form that it is written in. -/
theorem shows_arrayForm {depth : Nat} {texts : List String} {values : List Toml}
    (h : List.Forall₂ (Shows depth) (texts.map String.toList) values) :
    Shows (depth + 1) (arrayForm texts).toList (.array values) := by
  obtain ⟨body, hform, hbody, hread⟩ := items?_arrayForm h
  refine ⟨fun rest _ hreturn => ?_, ?_, '[', body, hform, by decide⟩
  · rw [hform, List.cons_append]
    simp only [value?, hread rest hreturn, Option.bind_eq_bind, Option.bind_some, Option.pure_def]
  · rw [hform]
    simp [hbody]

/-! ## Dotted keys -/

/-- Keys with dots between them. -/
def dottedForm (parts : List String) : List Char :=
  ['.'].intercalate (parts.map fun part => (keyForm part).toList)

theorem dottedForm_cons_cons (part next : String) (parts : List String) :
    dottedForm (part :: next :: parts) =
      (keyForm part).toList ++ '.' :: dottedForm (next :: parts) := by
  simp [dottedForm, List.intercalate_cons_cons]

theorem exists_first_dottedForm (part : String) (parts : List String) :
    ∃ c cs, dottedForm (part :: parts) = c :: cs ∧
      c ∉ [' ', '\t', '\n', '\r', '#', ']', '['] := by
  obtain ⟨c, cs, hform, hc⟩ := exists_first_keyForm part
  cases parts with
  | nil => exact ⟨c, cs, by simpa [dottedForm] using hform, hc⟩
  | cons next parts =>
      refine ⟨c, cs ++ '.' :: dottedForm (next :: parts), ?_, hc⟩
      rw [dottedForm_cons_cons, hform]
      rfl

theorem opens_dottedForm (part : String) (parts : List String) :
    Opens (dottedForm (part :: parts)) := by
  obtain ⟨c, cs, hform, hc⟩ := exists_first_dottedForm part parts
  exact ⟨c, cs, hform, fun hmem => hc (List.mem_append_left ['['] hmem)⟩

theorem key?_dottedForm (part : String) (parts : List String) {fuel : Nat}
    (hfuel : parts.length < fuel) {rest : List Char} (hrest : EndsKey rest)
    (hdot : (skipBlank rest).head? ≠ some '.') :
    key? fuel (dottedForm (part :: parts) ++ rest) = some (part :: parts, skipBlank rest) := by
  induction parts generalizing part fuel with
  | nil =>
      obtain ⟨fuel, rfl⟩ := Nat.exists_eq_succ_of_ne_zero (Nat.ne_zero_of_lt hfuel)
      have hform : dottedForm [part] = (keyForm part).toList := by simp [dottedForm]
      rw [key?, ((opens_dottedForm part []).append rest).skipBlank, hform,
        simpleKey?_keyForm part hrest]
      simp only [Option.bind_eq_bind, Option.bind_some, Option.pure_def]
      split
      · rename_i heq
        rw [heq] at hdot
        exact absurd rfl hdot
      · rfl
  | cons next parts ih =>
      obtain ⟨fuel, rfl⟩ := Nat.exists_eq_succ_of_ne_zero (Nat.ne_zero_of_lt hfuel)
      have hform : dottedForm (part :: next :: parts) ++ rest =
          (keyForm part).toList ++ '.' :: (dottedForm (next :: parts) ++ rest) := by
        rw [dottedForm_cons_cons, List.append_assoc, List.cons_append]
      have hends : EndsKey ('.' :: (dottedForm (next :: parts) ++ rest)) := by
        rintro _ ⟨⟩
        rfl
      have hblank : skipBlank ('.' :: (dottedForm (next :: parts) ++ rest)) =
          '.' :: (dottedForm (next :: parts) ++ rest) := rfl
      rw [key?, ((opens_dottedForm part (next :: parts)).append rest).skipBlank, hform,
        simpleKey?_keyForm part hends]
      simp only [Option.bind_eq_bind, Option.bind_some, Option.pure_def, hblank,
        ih next (by simpa using hfuel : parts.length < fuel)]

/-- A header's path, with the closing bracket next. -/
theorem keyPath?_header {parents : List String} (hdepth : parents.length < nestingLimit - 1)
    (key : String) (rest : List Char) :
    keyPath? (dottedForm (parents ++ [key]) ++ ']' :: rest) = some (parents, key, ']' :: rest) := by
  obtain ⟨part, parts, hparts⟩ := List.exists_cons_of_ne_nil
    (List.append_ne_nil_of_right_ne_nil parents (List.cons_ne_nil key []))
  have hlength : parts.length = parents.length := by
    have := congrArg List.length hparts
    simpa using this.symm
  have hends : EndsKey (']' :: rest) := by
    rintro _ ⟨⟩
    rfl
  have hread := key?_dottedForm part parts (hlength ▸ hdepth) hends (by simp [skipBlank])
  rw [keyPath?, hparts, hread, ← hparts]
  simp [skipBlank]

/-- The key of an entry, with the sign behind it next. -/
theorem keyPath?_entry (key : String) (rest : List Char) :
    keyPath? ((keyForm key).toList ++ ' ' :: '=' :: rest) = some ([], key, '=' :: rest) := by
  have hends : EndsKey (' ' :: '=' :: rest) := by
    rintro _ ⟨⟩
    rfl
  have hform : dottedForm [key] = (keyForm key).toList := by simp [dottedForm]
  have hread := key?_dottedForm key [] (by decide : [].length < nestingLimit - 1) hends
    (by simp [skipBlank])
  rw [keyPath?, ← hform, hread]
  simp [skipBlank]

/-! ## Lines -/

def headerLine (path : List String) : List Char := '[' :: (dottedForm path ++ [']', '\n'])

def entryLine (key : String) (value : List Char) : List Char :=
  (keyForm key).toList ++ ' ' :: '=' :: ' ' :: (value ++ ['\n'])

namespace Document

theorem lines?_replicate (fuel n : Nat) (d : Document) (cs : List Char) :
    lines? fuel d (List.replicate n '\n' ++ cs) = lines? fuel d cs := by
  cases fuel with
  | zero => rfl
  | succ fuel => rw [lines?, lines?, skipLines_replicate]

theorem lines?_of_line {d d' : Document} {cs rest : List Char} (hopens : Opens cs)
    (hline : d.line? cs = some (d', '\n' :: rest)) (fuel : Nat) :
    lines? (fuel + 1) d cs = lines? fuel d' rest := by
  obtain ⟨c, more, rfl, hc⟩ := hopens
  have hskip : skipLines ((c :: more).length + 1) (c :: more) = c :: more :=
    Opens.skipLines ⟨c, more, rfl, hc⟩ _
  have hrest : restOfLine? ('\n' :: rest) = some rest := rfl
  rw [lines?, hskip]
  simp only [hline, hrest, Option.bind_eq_bind, Option.bind_some]

theorem line?_header {parents : List String} {key : String} (d : Document) (rest : List Char) :
    d.line? ('[' :: (dottedForm (parents ++ [key]) ++ rest)) =
      d.header? Tree.openTable [']'] (dottedForm (parents ++ [key]) ++ rest) := by
  obtain ⟨part, parts, hparts⟩ := List.exists_cons_of_ne_nil
    (List.append_ne_nil_of_right_ne_nil parents (List.cons_ne_nil key []))
  obtain ⟨c, more, hform, hc⟩ := exists_first_dottedForm part parts
  rw [hparts, hform, List.cons_append]
  unfold line?
  split
  · rename_i heq
    obtain rfl : c = '[' := (List.cons.inj (List.cons.inj heq).2).1
    simp at hc
  · rename_i heq
    rw [(List.cons.inj heq).2]
  · rename_i hnot
    exact (hnot _ rfl).elim

theorem lines?_header {d : Document} {root : Tree} {parents : List String} {key : String}
    (hdepth : parents.length < nestingLimit - 1)
    (hopen : d.root.changeAt (Tree.openTable key) parents = some root) (fuel : Nat)
    (rest : List Char) :
    lines? (fuel + 1) d (headerLine (parents ++ [key]) ++ rest) =
      lines? fuel ⟨root, parents ++ [key]⟩ rest := by
  have hform : headerLine (parents ++ [key]) ++ rest =
      '[' :: (dottedForm (parents ++ [key]) ++ ']' :: '\n' :: rest) := by
    simp [headerLine]
  have hline : d.line? ('[' :: (dottedForm (parents ++ [key]) ++ ']' :: '\n' :: rest)) =
      some (⟨root, parents ++ [key]⟩, '\n' :: rest) := by
    rw [line?_header]
    simp [header?, keyPath?_header hdepth key, hopen]
  rw [hform]
  exact lines?_of_line ⟨'[', _, rfl, by decide⟩ hline fuel

theorem line?_entry (d : Document) (key : String) (rest : List Char) :
    d.line? ((keyForm key).toList ++ rest) = d.keyValue? ((keyForm key).toList ++ rest) := by
  obtain ⟨c, more, hform, hc⟩ := exists_first_keyForm key
  have hbracket : c ≠ '[' := by
    rintro rfl
    simp at hc
  rw [hform, List.cons_append]
  unfold line?
  split
  · rename_i heq
    exact absurd (List.cons.inj heq).1 hbracket
  · rename_i heq
    exact absurd (List.cons.inj heq).1 hbracket
  · rfl

theorem lines?_entry {d : Document} {root : Tree} {key : String} {value : List Char} {v : Toml}
    (hshows : Shows (nestingLimit - 1) value v)
    (hadd : d.root.changeAt (Tree.addKey key v []) d.current = some root) (fuel : Nat)
    {rest : List Char} (hreturn : '\r' ∉ rest) :
    lines? (fuel + 1) d (entryLine key value ++ rest) =
      lines? fuel { d with root := root } rest := by
  have hform : entryLine key value ++ rest =
      (keyForm key).toList ++ ' ' :: '=' :: ' ' :: (value ++ '\n' :: rest) := by
    simp [entryLine]
  have hblank : skipBlank (' ' :: (value ++ '\n' :: rest)) = value ++ '\n' :: rest :=
    (hshows.opens.append ('\n' :: rest)).skipBlank
  have hread := hshows.read ('\n' :: rest) (endsText_lineEnd rest) (by simp [hreturn])
  have hline : d.line? ((keyForm key).toList ++ ' ' :: '=' :: ' ' :: (value ++ '\n' :: rest)) =
      some ({ d with root := root }, '\n' :: rest) := by
    rw [line?_entry, keyValue?, keyPath?_entry]
    simp [hblank, hread, hadd]
  rw [hform]
  exact lines?_of_line ((opens_keyForm key).append _) hline fuel

end Document

/-! ## Sections -/

/-- An entry of a section, with its value as it is written and as it is. -/
structure Assignment where
  key : String
  form : String
  value : Toml

/-- A section with what its header names and what its entries stand for. -/
structure Block where
  parents : List String
  key : String
  entries : List Assignment

namespace Block

def path (b : Block) : List String := b.parents ++ [b.key]

def toSection (b : Block) : Section := ⟨b.path, b.entries.map fun e => (e.key, e.form)⟩

/-- Opens the table of the block and adds its entries. -/
def addTo (b : Block) (t : Tree) : Option Tree := do
  let t ← t.changeAt (Tree.openTable b.key) b.parents
  b.entries.foldlM (fun t e => t.changeAt (Tree.addKey e.key e.value []) b.path) t

/-- The entries are written as what they stand for. -/
structure IsShown (b : Block) : Prop where
  depth : b.parents.length < nestingLimit - 1
  entries : ∀ e ∈ b.entries, Shows (nestingLimit - 1) e.form.toList e.value

end Block

theorem toList_write (s : Section) :
    s.write.toList = headerLine s.path ++ s.entries.flatMap fun e => entryLine e.1 e.2.toList := by
  have hentries (entries : List (String × String)) (acc : String) :
      (entries.foldl (fun acc e => acc ++ keyForm e.1 ++ " = " ++ e.2 ++ "\n") acc).toList =
        acc.toList ++ entries.flatMap fun e => entryLine e.1 e.2.toList := by
    induction entries generalizing acc with
    | nil => simp
    | cons e entries ih =>
        rw [List.foldl_cons, ih]
        simp [entryLine]
  rw [Section.write, String.toList_append]
  change _ ++ (s.entries.foldl
    (fun acc e => acc ++ keyForm e.1 ++ " = " ++ e.2 ++ "\n") "").toList = _
  rw [hentries]
  simp [headerLine, dottedForm, String.toList_intercalate, Function.comp_def]

theorem return_not_mem_dottedForm (parts : List String) : '\r' ∉ dottedForm parts := by
  induction parts with
  | nil => simp [dottedForm]
  | cons part parts ih =>
      cases parts with
      | nil => simpa [dottedForm] using return_not_mem_keyForm part
      | cons next parts => simp [dottedForm_cons_cons, return_not_mem_keyForm, ih]

theorem return_not_mem_entryLines {entries : List Assignment} {depth : Nat}
    (h : ∀ e ∈ entries, Shows depth e.form.toList e.value) :
    '\r' ∉ entries.flatMap fun e => entryLine e.key e.form.toList := by
  simp only [List.mem_flatMap, not_exists, not_and]
  intro e he
  simp [entryLine, return_not_mem_keyForm, (h e he).noReturn]

namespace Block

def chars (b : Block) : List Char :=
  headerLine b.path ++ b.entries.flatMap fun e => entryLine e.key e.form.toList

theorem toList_write_toSection (b : Block) : b.toSection.write.toList = b.chars := by
  rw [toList_write, toSection, List.flatMap_map]
  rfl

theorem IsShown.return_not_mem {b : Block} (h : b.IsShown) : '\r' ∉ b.chars := by
  simp [chars, headerLine, return_not_mem_dottedForm, return_not_mem_entryLines h.entries]

theorem length_le_entryLines (entries : List Assignment) :
    entries.length ≤ (entries.flatMap fun e => entryLine e.key e.form.toList).length := by
  induction entries with
  | nil => exact Nat.zero_le _
  | cons e entries ih =>
      have hline : 0 < (entryLine e.key e.form.toList).length := by simp [entryLine]
      rw [List.flatMap_cons, List.length_append, List.length_cons]
      omega

theorem length_lt_chars (b : Block) : b.entries.length < b.chars.length := by
  have hentries := length_le_entryLines b.entries
  have hheader : 0 < (headerLine b.path).length := by simp [headerLine]
  rw [chars, List.length_append]
  omega

end Block

/-- Blocks one after the other, with some empty lines before each. -/
def blockChars (gap : List String → Nat) (blocks : List Block) : List Char :=
  blocks.flatMap fun b => List.replicate (gap b.path) '\n' ++ b.chars

theorem return_not_mem_blockChars (gap : List String → Nat) {blocks : List Block}
    (h : ∀ b ∈ blocks, b.IsShown) : '\r' ∉ blockChars gap blocks := by
  simp only [blockChars, List.mem_flatMap, not_exists, not_and]
  intro b hb
  simp [(h b hb).return_not_mem]

/-- The number of lines with a header or an entry. -/
def lineCount (blocks : List Block) : Nat := (blocks.map fun b => b.entries.length + 1).sum

theorem lineCount_le (gap : List String → Nat) (blocks : List Block) :
    lineCount blocks ≤ (blockChars gap blocks).length := by
  induction blocks with
  | nil => exact Nat.zero_le _
  | cons b blocks ih =>
      have hlength := b.length_lt_chars
      simp only [lineCount, blockChars, List.map_cons, List.sum_cons, List.flatMap_cons,
        List.length_append] at ih ⊢
      omega

namespace Document

theorem lines?_entries {path : List String} {entries : List Assignment} {root root' : Tree}
    (hadd : entries.foldlM (fun t e => t.changeAt (Tree.addKey e.key e.value []) path) root =
      some root')
    (hshows : ∀ e ∈ entries, Shows (nestingLimit - 1) e.form.toList e.value) (fuel : Nat)
    {rest : List Char} (hreturn : '\r' ∉ rest) :
    lines? (fuel + entries.length) ⟨root, path⟩
        ((entries.flatMap fun e => entryLine e.key e.form.toList) ++ rest) =
      lines? fuel ⟨root', path⟩ rest := by
  induction entries generalizing root with
  | nil =>
      obtain rfl : root = root' := by simpa using hadd
      rfl
  | cons e entries ih =>
      rw [List.forall_mem_cons] at hshows
      rw [List.foldlM_cons] at hadd
      obtain ⟨next, hnext, hadd⟩ := Option.bind_eq_some_iff.mp hadd
      have htail : '\r' ∉ (entries.flatMap fun e => entryLine e.key e.form.toList) ++ rest := by
        simp [return_not_mem_entryLines hshows.2, hreturn]
      rw [List.flatMap_cons, List.append_assoc, List.length_cons, ← Nat.add_assoc,
        lines?_entry hshows.1 hnext _ htail]
      exact ih hadd hshows.2

theorem lines?_block {b : Block} (hshown : b.IsShown) {root root' : Tree} {current : List String}
    (hadd : b.addTo root = some root') (fuel : Nat) {rest : List Char} (hreturn : '\r' ∉ rest) :
    lines? (fuel + (b.entries.length + 1)) ⟨root, current⟩ (b.chars ++ rest) =
      lines? fuel ⟨root', b.path⟩ rest := by
  obtain ⟨next, hnext, hadd⟩ := Option.bind_eq_some_iff.mp hadd
  rw [Block.chars, List.append_assoc, ← Nat.add_assoc]
  rw [Block.path, lines?_header hshown.depth hnext]
  exact lines?_entries hadd hshown.entries fuel hreturn

theorem lines?_blocks (gap : List String → Nat) {blocks : List Block}
    (hshown : ∀ b ∈ blocks, b.IsShown) {root root' : Tree} (current : List String)
    (hadd : blocks.foldlM (fun t b => b.addTo t) root = some root') (fuel : Nat)
    {rest : List Char} (hreturn : '\r' ∉ rest) :
    ∃ current', lines? (fuel + lineCount blocks) ⟨root, current⟩ (blockChars gap blocks ++ rest) =
      lines? fuel ⟨root', current'⟩ rest := by
  induction blocks generalizing root current with
  | nil =>
      obtain rfl : root = root' := by simpa using hadd
      exact ⟨current, rfl⟩
  | cons b blocks ih =>
      rw [List.forall_mem_cons] at hshown
      rw [List.foldlM_cons] at hadd
      obtain ⟨next, hnext, hadd⟩ := Option.bind_eq_some_iff.mp hadd
      -- The blocks behind are read with the table of this one open, whatever was open before.
      obtain ⟨current', hrest⟩ := ih hshown.2 b.path hadd
      have htail : '\r' ∉ blockChars gap blocks ++ rest := by
        simp [return_not_mem_blockChars gap hshown.2, hreturn]
      refine ⟨current', ?_⟩
      have hcount : fuel + lineCount (b :: blocks) =
          fuel + lineCount blocks + (b.entries.length + 1) := by
        simp only [lineCount, List.map_cons, List.sum_cons]
        omega
      have htext : blockChars gap (b :: blocks) ++ rest =
          List.replicate (gap b.path) '\n' ++ (b.chars ++ (blockChars gap blocks ++ rest)) := by
        simp [blockChars]
      rw [hcount, htext, lines?_replicate, lines?_block hshown.1 hnext _ htail]
      exact hrest

end Document

/-! ## Documents -/

/-- Sections with some empty lines before each and at the end. -/
def spaced (gap : List String → Nat) (last : Nat) (sections : List Section) : String :=
  .ofList ((sections.flatMap fun s => List.replicate (gap s.path) '\n' ++ s.write.toList) ++
    List.replicate last '\n')

theorem toList_spaced (gap : List String → Nat) (last : Nat) (blocks : List Block) :
    (spaced gap last (blocks.map Block.toSection)).toList =
      blockChars gap blocks ++ List.replicate last '\n' := by
  rw [spaced, String.toList_ofList, List.flatMap_map, blockChars]
  simp only [Block.toList_write_toSection]
  rfl

theorem skipMark_of_head {cs : List Char} (h : cs.head? ≠ some '\uFEFF') : skipMark cs = cs := by
  unfold skipMark
  split
  · exact absurd rfl h
  · rfl

theorem head?_replicate_ne {cs : List Char} (h : cs.head? ≠ some '\uFEFF') (n : Nat) :
    (List.replicate n '\n' ++ cs).head? ≠ some '\uFEFF' := by
  cases n with
  | zero => exact h
  | succ n => simp [List.replicate_succ]

theorem head?_blockChars_ne (gap : List String → Nat) (last : Nat) (blocks : List Block) :
    (blockChars gap blocks ++ List.replicate last '\n').head? ≠ some '\uFEFF' := by
  cases blocks with
  | nil =>
      have := head?_replicate_ne (by simp : ([] : List Char).head? ≠ some '\uFEFF') last
      rwa [List.append_nil] at this
  | cons b blocks =>
      rw [blockChars, List.flatMap_cons, List.append_assoc, List.append_assoc]
      refine head?_replicate_ne ?_ _
      simp [Block.chars, headerLine]

/-- A document of sections is the tree that its tables and entries make. -/
theorem ofText?_spaced (gap : List String → Nat) (last : Nat) {blocks : List Block}
    (hshown : ∀ b ∈ blocks, b.IsShown) {root : Tree}
    (hadd : blocks.foldlM (fun t b => b.addTo t) [] = some root) :
    ofText? (spaced gap last (blocks.map Block.toSection)) =
      (Node.table .header root).toToml.resolved? := by
  have hmark : skipMark (spaced gap last (blocks.map Block.toSection)).toList =
      blockChars gap blocks ++ List.replicate last '\n' := by
    rw [toList_spaced]
    exact skipMark_of_head (head?_blockChars_ne gap last blocks)
  obtain ⟨fuel, hfuel⟩ : ∃ fuel, (blockChars gap blocks ++ List.replicate last '\n').length + 1 =
      fuel + 1 + lineCount blocks := by
    have := lineCount_le gap blocks
    refine ⟨(blockChars gap blocks ++ List.replicate last '\n').length - lineCount blocks, ?_⟩
    rw [List.length_append]
    omega
  have hreturn : '\r' ∉ List.replicate last '\n' := by simp
  obtain ⟨current, hread⟩ := Document.lines?_blocks gap hshown [] hadd (fuel + 1) hreturn
  have hend : Document.lines? (fuel + 1) ⟨root, current⟩ (List.replicate last '\n') =
      some ⟨root, current⟩ := by
    have := Document.lines?_replicate (fuel + 1) last ⟨root, current⟩ []
    rw [List.append_nil] at this
    rw [this]
    rfl
  simp only [ofText?, hmark, hfuel, hread, hend, Option.bind_eq_bind, Option.bind_some]

end RecordListing.Toml
