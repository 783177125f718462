import Mathlib
import RecordListing.Toml.Printer
import RecordListing.Toml.Reader

namespace RecordListing.Toml

/-!
# Texts and keys in TOML

A text is read back from whichever of its forms it is written in, and a key from either of
its own. Between double quotes each escape gives its character again. Over several lines the
quotes in the text are told from those at its end because no more than two stand together.
-/

/-! ## Runs of quotes -/

theorem le_longestRun (quote : Char) (run : Nat) (cs : List Char) :
    run ≤ longestRun quote run cs := by
  induction cs generalizing run with
  | nil => exact Nat.le_refl _
  | cons c cs ih =>
      rw [longestRun]
      split
      · exact Nat.le_of_succ_le (ih (run + 1))
      · exact Nat.le_max_left _ _

theorem not_mem_of_longestRun {quote : Char} {cs : List Char} (h : longestRun quote 0 cs = 0) :
    quote ∉ cs := by
  induction cs with
  | nil => exact List.not_mem_nil
  | cons c cs ih =>
      rw [longestRun] at h
      split at h
      · have hrun := le_longestRun quote (0 + 1) cs
        omega
      · rename_i hc
        rw [List.mem_cons, not_or]
        exact ⟨Ne.symm hc, ih (by omega)⟩

/-! ## Escapes -/

theorem hexValue?_upperHex : ∀ n < 16, Json.hexValue? (upperHex n) = some n := by decide

theorem escape?_control {c : Char} (hc : c.toNat < 0x80) (rest : List Char) :
    escape? ('u' :: '0' :: '0' :: upperHex (c.toNat / 16) :: upperHex (c.toNat % 16) :: rest) =
      some (c, rest) := by
  have hzero : Json.hexValue? '0' = some 0 := by decide
  have hunit : 16 * (c.toNat / 16) + c.toNat % 16 = c.toNat := Nat.div_add_mod _ _
  have hlow : c.toNat < 0xD800 := by omega
  simp only [escape?, unicode?, List.take_succ_cons, List.take_zero, List.mapM_cons,
    List.mapM_nil, hzero, hexValue?_upperHex _ (by omega : c.toNat / 16 < 16),
    hexValue?_upperHex _ (by omega : c.toNat % 16 < 16), Option.pure_def, Option.bind_eq_bind,
    Option.bind_some, List.length_cons, List.length_nil, List.foldl_cons, List.foldl_nil,
    Nat.mul_zero, Nat.zero_add, hunit, hlow, true_or, ↓reduceIte, List.drop_succ_cons,
    List.drop_zero, Char.ofNat_toNat]

/-- What an escape puts behind its backslash is no blank, and is read as the character. -/
theorem escape?_of_escapeOf? {c : Char} {e : List Char} (h : escapeOf? c = some e) :
    ∃ mark more, e = '\\' :: mark :: more ∧ mark ∉ [' ', '\t', '\n', '\r'] ∧
      ∀ rest, escape? (mark :: (more ++ rest)) = some (c, rest) := by
  unfold escapeOf? at h
  split_ifs at h with hback htab hfeed hreturn hslash hcontrol
  · obtain rfl := Option.some.inj h
    have hc : c = '\x08' := Char.toNat_inj.mp hback
    exact ⟨'b', [], rfl, by decide, fun rest => by rw [hc]; rfl⟩
  · obtain rfl := Option.some.inj h
    exact ⟨'t', [], rfl, by decide, fun rest => by rw [htab]; rfl⟩
  · obtain rfl := Option.some.inj h
    have hc : c = '\x0c' := Char.toNat_inj.mp hfeed
    exact ⟨'f', [], rfl, by decide, fun rest => by rw [hc]; rfl⟩
  · obtain rfl := Option.some.inj h
    exact ⟨'r', [], rfl, by decide, fun rest => by rw [hreturn]; rfl⟩
  · obtain rfl := Option.some.inj h
    exact ⟨'\\', [], rfl, by decide, fun rest => by rw [hslash]; rfl⟩
  · obtain rfl := Option.some.inj h
    have hc : c.toNat < 0x80 := by
      simp [isControl] at hcontrol
      omega
    exact ⟨'u', _, rfl, by decide, fun rest => escape?_control hc rest⟩

theorem isPlain_of_escapeOf? {c : Char} (h : escapeOf? c = none) (hline : c ≠ '\n') :
    isPlain c = true ∧ c ≠ '\\' ∧ c ≠ '\r' := by
  unfold escapeOf? at h
  split_ifs at h with hback htab hfeed hreturn hslash hcontrol
  refine ⟨?_, hslash, hreturn⟩
  simp [isControl, htab, hline] at hcontrol
  simp [isPlain, hcontrol]

theorem isPlain_of_not_isControl {c : Char} (h : isControl c = false) (hline : c ≠ '\n') :
    isPlain c = true := by
  by_cases htab : c = '\t'
  · simp [isPlain, htab]
  · simp [isControl, htab, hline] at h
    simp [isPlain, h]

/-! ## Texts within a line -/

theorem basicString?_escaped (cs : List Char) {fuel : Nat} (hfuel : cs.length < fuel)
    (rest : List Char) :
    basicString? fuel (escaped 0 false 0 cs ++ '"' :: rest) = some (cs, rest) := by
  induction cs generalizing fuel with
  | nil =>
      obtain ⟨fuel, rfl⟩ := Nat.exists_eq_succ_of_ne_zero (Nat.ne_zero_of_lt hfuel)
      rfl
  | cons c cs ih =>
      obtain ⟨fuel, rfl⟩ := Nat.exists_eq_succ_of_ne_zero (Nat.ne_zero_of_lt hfuel)
      have hread := ih (by simpa using hfuel : cs.length < fuel)
      by_cases hquote : c = '"'
      · subst hquote
        simp [escaped, basicString?, escape?, hread]
      · by_cases hline : c = '\n'
        · subst hline
          simp [escaped, basicString?, escape?, hread]
        · cases hescape : escapeOf? c with
          | none =>
              obtain ⟨hplain, hslash, -⟩ := isPlain_of_escapeOf? hescape hline
              simp [escaped, basicString?, hquote, hline, hescape, hplain, hslash, hread]
          | some e =>
              obtain ⟨mark, more, rfl, -, hmark⟩ := escape?_of_escapeOf? hescape
              simp [escaped, basicString?, hquote, hline, hescape, hmark, hread]

theorem length_le_escaped (allowed : Nat) (lines : Bool) (run : Nat) (cs : List Char) :
    cs.length ≤ (escaped allowed lines run cs).length := by
  induction cs generalizing run with
  | nil => exact Nat.zero_le _
  | cons c cs ih =>
      have hzero := ih 0
      by_cases hquote : c = '"'
      · by_cases hrun : run < allowed
        · simpa [escaped, hquote, hrun] using ih (run + 1)
        · simp only [escaped, hquote, hrun, ↓reduceIte, List.length_cons]
          omega
      · by_cases hline : c = '\n'
        · subst hline
          cases lines <;> simp [escaped] <;> omega
        · cases hescape : escapeOf? c with
          | none => simpa [escaped, hquote, hline, hescape] using hzero
          | some e =>
              obtain ⟨mark, more, rfl, -⟩ := escape?_of_escapeOf? hescape
              simp only [escaped, hquote, hline, hescape, ↓reduceIte, List.length_cons,
                List.length_append]
              omega

theorem literalString?_of_plain {cs : List Char} (h : ∀ c ∈ cs, isPlain c = true ∧ c ≠ '\'')
    (rest : List Char) : literalString? (cs ++ '\'' :: rest) = some (cs, rest) := by
  have hall : ∀ c ∈ cs, (isPlain c && c ≠ '\'') = true := by simpa using h
  unfold literalString?
  rw [List.dropWhile_append_of_pos hall, List.takeWhile_append_of_pos hall]
  simp

/-! ## Texts over several lines -/

theorem leadingQuotes_replicate {quote : Char} (n : Nat) {rest : List Char}
    (hrest : rest.head? ≠ some quote) :
    leadingQuotes quote (List.replicate n quote ++ rest) = n := by
  have hall : ∀ c ∈ List.replicate n quote, decide (c = quote) = true := by
    intro c hc
    simpa using List.eq_of_mem_replicate hc
  have hstop : rest.takeWhile (· = quote) = [] := by
    cases rest with
    | nil => rfl
    | cons c rest => exact List.takeWhile_cons_of_neg (by simpa using hrest)
  rw [leadingQuotes, List.takeWhile_append_of_pos hall, hstop, List.append_nil,
    List.length_replicate]

/-- A few quotes in front, and then the end or something else. -/
inductive OpensWith (quote : Char) (most : Nat) : List Char → Prop
  | only (n : Nat) (h : n ≤ most) : OpensWith quote most (List.replicate n quote)
  | other (n : Nat) (h : n ≤ most) {c : Char} (hc : c ≠ quote) (cs : List Char) :
      OpensWith quote most (List.replicate n quote ++ c :: cs)

theorem OpensWith.cons {quote : Char} {most : Nat} {cs : List Char}
    (h : OpensWith quote most cs) : OpensWith quote (most + 1) (quote :: cs) := by
  cases h with
  | only n hn => exact .only (n + 1) (Nat.succ_le_succ hn)
  | other n hn hc cs => exact .other (n + 1) (Nat.succ_le_succ hn) hc cs

theorem OpensWith.mono {quote : Char} {most most' : Nat} {cs : List Char}
    (h : OpensWith quote most cs) (hmost : most ≤ most') : OpensWith quote most' cs := by
  cases h with
  | only n hn => exact .only n (Nat.le_trans hn hmost)
  | other n hn hc cs => exact .other n (Nat.le_trans hn hmost) hc cs

theorem OpensWith.of_ne {quote c : Char} (hc : c ≠ quote) (most : Nat) (cs : List Char) :
    OpensWith quote most (c :: cs) :=
  .other 0 (Nat.zero_le _) hc cs

theorem opensWith_escaped (allowed : Nat) (lines : Bool) (run : Nat) (cs : List Char) :
    OpensWith '"' (allowed - run) (escaped allowed lines run cs) := by
  induction cs generalizing run with
  | nil => exact .only 0 (Nat.zero_le _)
  | cons c cs ih =>
      by_cases hquote : c = '"'
      · subst hquote
        by_cases hmore : run < allowed
        · have hrest := (ih (run + 1)).cons
          have hcount : allowed - (run + 1) + 1 = allowed - run := by omega
          rw [hcount] at hrest
          simpa [escaped, hmore] using hrest
        · simpa [escaped, hmore] using OpensWith.of_ne (by decide) _ _
      · by_cases hline : c = '\n'
        · subst hline
          cases lines <;> simpa [escaped] using OpensWith.of_ne (by decide) _ _
        · cases hescape : escapeOf? c with
          | none => simpa [escaped, hquote, hline, hescape] using OpensWith.of_ne hquote _ _
          | some e =>
              obtain ⟨mark, more, rfl, -⟩ := escape?_of_escapeOf? hescape
              simpa [escaped, hquote, hline, hescape] using OpensWith.of_ne (by decide) _ _

theorem opensWith_of_longestRun {quote : Char} {run most : Nat} {cs : List Char}
    (h : longestRun quote run cs ≤ most) : OpensWith quote (most - run) cs := by
  induction cs generalizing run with
  | nil => exact .only 0 (Nat.zero_le _)
  | cons c cs ih =>
      by_cases hquote : c = quote
      · subst hquote
        rw [longestRun, if_pos rfl] at h
        have hrun := le_longestRun c (run + 1) cs
        have hcount : most - (run + 1) + 1 = most - run := by omega
        rw [← hcount]
        exact (ih h).cons
      · exact .of_ne hquote _ _

section LongString

variable {quote : Char} {rest : List Char} (hrest : rest.head? ≠ some quote)
include hrest

theorem longString?_closing {n : Nat} (hn : n ≤ 2) (fuel : Nat) :
    longString? quote (fuel + 1) (List.replicate n quote ++ quote :: quote :: quote :: rest) =
      some (List.replicate n quote, rest) := by
  have htext : List.replicate n quote ++ quote :: quote :: quote :: rest =
      List.replicate (n + 3) quote ++ rest := by
    rw [List.replicate_add, List.append_assoc]
    rfl
  have hcons : List.replicate (n + 3) quote ++ rest =
      quote :: (List.replicate (n + 2) quote ++ rest) := by
    rw [List.replicate_succ, List.cons_append]
  have hcount := leadingQuotes_replicate (n + 3) hrest
  have hdrop : (List.replicate (n + 3) quote ++ rest).drop (n + 3) = rest :=
    List.drop_left' List.length_replicate
  rw [htext]
  rw [hcons] at hcount hdrop ⊢
  have hmany : ¬ n + 3 < 3 := by omega
  have hfew : n + 3 ≤ 5 := by omega
  simp only [longString?, hcount, hmany, hfew, ↓reduceIte, hdrop, Nat.add_sub_cancel]

/-- A quote of the text is told from the ones at its end. -/
theorem longString?_quote {body cs : List Char} (hopens : OpensWith quote 2 (quote :: body))
    {fuel : Nat}
    (hread : longString? quote (fuel + 1) (body ++ quote :: quote :: quote :: rest) =
      some (cs, rest)) :
    longString? quote (fuel + 2) (quote :: body ++ quote :: quote :: quote :: rest) =
      some (quote :: cs, rest) := by
  generalize hwhole : quote :: body = whole at hopens
  cases hopens with
  | only n hn =>
      cases n with
      | zero => cases hwhole
      | succ n =>
          obtain rfl : body = List.replicate n quote := (List.cons.inj hwhole).2
          rw [longString?_closing hrest (by omega)] at hread
          obtain rfl : List.replicate n quote = cs := (Prod.mk.inj (Option.some.inj hread)).1
          exact longString?_closing hrest hn (fuel + 1)
  | other n hn hc others =>
      have hfew : leadingQuotes quote
          (quote :: (body ++ quote :: quote :: quote :: rest)) < 3 := by
        rw [← List.cons_append, hwhole, List.append_assoc, List.cons_append,
          leadingQuotes_replicate n (by simpa using hc)]
        omega
      rw [← hwhole, List.cons_append, longString?, if_pos rfl]
      simp only [hfew, ↓reduceIte, hread, Option.bind_eq_bind, Option.bind_some, Option.pure_def]

end LongString

theorem longString?_escaped (cs : List Char) {rest : List Char} (hrest : rest.head? ≠ some '"')
    {run : Nat} (hrun : run ≤ 2) {fuel : Nat} (hfuel : cs.length < fuel) :
    longString? '"' fuel (escaped 2 true run cs ++ '"' :: '"' :: '"' :: rest) =
      some (cs, rest) := by
  induction cs generalizing run fuel with
  | nil =>
      obtain ⟨fuel, rfl⟩ := Nat.exists_eq_succ_of_ne_zero (Nat.ne_zero_of_lt hfuel)
      exact longString?_closing hrest (Nat.zero_le 2) fuel
  | cons c cs ih =>
      rw [List.length_cons] at hfuel
      obtain ⟨fuel, rfl⟩ : ∃ n, fuel = n + 2 := ⟨fuel - 2, by omega⟩
      have hshorter : cs.length < fuel + 1 := by omega
      have hzero := ih (Nat.zero_le 2) hshorter
      by_cases hquote : c = '"'
      · subst hquote
        by_cases hmore : run < 2
        · have hopens := opensWith_escaped 2 true run ('"' :: cs)
          have hread := ih (Nat.succ_le_of_lt hmore) hshorter
          have hbody : escaped 2 true run ('"' :: cs) = '"' :: escaped 2 true (run + 1) cs := by
            simp [escaped, hmore]
          rw [hbody] at hopens ⊢
          exact longString?_quote hrest (hopens.mono (Nat.sub_le 2 run)) hread
        · simp [escaped, hmore, longString?, skipBlank, escape?, hzero]
      · by_cases hline : c = '\n'
        · subst hline
          simp [escaped, longString?, hzero]
        · cases hescape : escapeOf? c with
          | none =>
              obtain ⟨hplain, hslash, -⟩ := isPlain_of_escapeOf? hescape hline
              simp [escaped, longString?, hquote, hline, hescape, hplain, hslash, hzero]
          | some e =>
              obtain ⟨mark, more, rfl, hblank, hmark⟩ := escape?_of_escapeOf? hescape
              simp only [List.mem_cons, List.not_mem_nil, or_false, not_or] at hblank
              simp [escaped, longString?, hquote, hline, hescape, hmark, hblank, skipBlank, hzero]

theorem longString?_of_plain {cs : List Char} (hplain : ∀ c ∈ cs, isPlain c = true ∨ c = '\n')
    {rest : List Char} (hrest : rest.head? ≠ some '\'') {run : Nat}
    (hrun : longestRun '\'' run cs ≤ 2) {fuel : Nat} (hfuel : cs.length < fuel) :
    longString? '\'' fuel (cs ++ '\'' :: '\'' :: '\'' :: rest) = some (cs, rest) := by
  induction cs generalizing run fuel with
  | nil =>
      obtain ⟨fuel, rfl⟩ := Nat.exists_eq_succ_of_ne_zero (Nat.ne_zero_of_lt hfuel)
      exact longString?_closing hrest (Nat.zero_le 2) fuel
  | cons c cs ih =>
      rw [List.length_cons] at hfuel
      obtain ⟨fuel, rfl⟩ : ∃ n, fuel = n + 2 := ⟨fuel - 2, by omega⟩
      have hshorter : cs.length < fuel + 1 := by omega
      rw [List.forall_mem_cons] at hplain
      have hopens := opensWith_of_longestRun hrun
      by_cases hquote : c = '\''
      · subst hquote
        rw [longestRun, if_pos rfl] at hrun
        exact longString?_quote hrest (hopens.mono (Nat.sub_le 2 run))
          (ih hplain.2 hrun hshorter)
      · rw [longestRun, if_neg hquote] at hrun
        have hread := ih hplain.2 (Nat.le_trans (Nat.le_max_right _ _) hrun) hshorter
        simp [longString?, hquote, hplain.1, hread]

/-! ## The forms of a text -/

theorem unifyLineEnds_of_not_mem {cs : List Char} (h : '\r' ∉ cs) : unifyLineEnds cs = cs := by
  induction cs with
  | nil => rfl
  | cons c cs ih =>
      rw [List.mem_cons, not_or] at h
      have hc : c ≠ '\r' := Ne.symm h.1
      rw [unifyLineEnds, ih h.2]
      rintro rest rfl
      exact absurd rfl hc

theorem return_not_mem_escape {c : Char} {e : List Char} (h : escapeOf? c = some e) :
    '\r' ∉ e := by
  have hdigit : ∀ n < 16, '\r' ≠ upperHex n := by decide
  unfold escapeOf? at h
  split_ifs at h with hback htab hfeed hreturn hslash hcontrol <;>
    obtain rfl := Option.some.inj h
  · decide
  · decide
  · decide
  · decide
  · decide
  · have hc : c.toNat < 0x80 := by
      simp [isControl] at hcontrol
      omega
    simp [hdigit (c.toNat / 16) (by omega), hdigit (c.toNat % 16) (by omega)]

theorem return_not_mem_escaped (allowed : Nat) (lines : Bool) (run : Nat) (cs : List Char) :
    '\r' ∉ escaped allowed lines run cs := by
  induction cs generalizing run with
  | nil => exact List.not_mem_nil
  | cons c cs ih =>
      by_cases hquote : c = '"'
      · by_cases hrun : run < allowed <;> simp [escaped, hquote, hrun, ih]
      · by_cases hline : c = '\n'
        · cases lines <;> simp [escaped, hline, ih]
        · cases hescape : escapeOf? c with
          | none =>
              have hc := (isPlain_of_escapeOf? hescape hline).2.2
              simp [escaped, hquote, hline, hescape, Ne.symm hc, ih]
          | some e =>
              simp [escaped, hquote, hline, hescape, return_not_mem_escape hescape, ih]

/-- What follows a text does not begin with a quote. -/
def EndsText (rest : List Char) : Prop := rest.head? ≠ some '"' ∧ rest.head? ≠ some '\''

theorem string?_of_basic {body cs rest : List Char} (h : ∀ more, body ≠ '"' :: '"' :: more)
    (hread : basicString? (body.length + 1) body = some (cs, rest)) :
    string? ('"' :: body) = some (.text (.ofList cs), rest) := by
  unfold string?
  split
  · rename_i heq
    exact absurd (List.cons.inj heq).2 (h _)
  · rename_i heq
    simp at heq
  · rename_i heq
    obtain rfl := (List.cons.inj heq).2
    simp [hread]
  · rename_i heq
    simp at heq
  · rename_i hnot _
    exact (hnot body rfl).elim

theorem string?_of_literal {body cs rest : List Char} (h : ∀ more, body ≠ '\'' :: '\'' :: more)
    (hread : literalString? body = some (cs, rest)) :
    string? ('\'' :: body) = some (.text (.ofList cs), rest) := by
  unfold string?
  split
  · rename_i heq
    simp at heq
  · rename_i heq
    exact absurd (List.cons.inj heq).2 (h _)
  · rename_i heq
    simp at heq
  · rename_i heq
    obtain rfl := (List.cons.inj heq).2
    simp [hread]
  · rename_i hnot
    exact (hnot body rfl).elim

/-- A text on one line does not look like the start of one over several lines. -/
theorem OpensWith.ne_quotes {quote : Char} {body rest : List Char} (h : OpensWith quote 0 body)
    (hrest : rest.head? ≠ some quote) (more : List Char) :
    body ++ quote :: rest ≠ quote :: quote :: more := by
  intro hmore
  cases h with
  | only n hn =>
      obtain rfl : n = 0 := Nat.le_zero.mp hn
      obtain rfl : rest = quote :: more := (List.cons.inj hmore).2
      exact hrest rfl
  | other n hn hc others =>
      obtain rfl : n = 0 := Nat.le_zero.mp hn
      exact hc (List.cons.inj hmore).1

/-- The line end in front is left out, and nothing else is taken for it. -/
theorem skipFirstLineEnd_body {body rest : List Char} (hbody : '\r' ∉ body) (hreturn : '\r' ∉ rest)
    {lines : Bool} (hfirst : lines = false → body.head? ≠ some '\n') {quote : Char}
    (hquote : quote = '"' ∨ quote = '\'') :
    skipFirstLineEnd (unifyLineEnds ((if lines then ['\n'] else []) ++
      (body ++ quote :: quote :: quote :: rest))) = body ++ quote :: quote :: quote :: rest := by
  have hnone : '\r' ∉ (if lines then ['\n'] else []) ++
      (body ++ quote :: quote :: quote :: rest) := by
    rcases hquote with rfl | rfl <;> cases lines <;> simp [hbody, hreturn]
  rw [unifyLineEnds_of_not_mem hnone]
  cases lines with
  | true => rfl
  | false =>
      have hhead := hfirst rfl
      cases body with
      | nil => rcases hquote with rfl | rfl <;> rfl
      | cons c body =>
          have hc : c ≠ '\n' := by simpa using hhead
          simp [skipFirstLineEnd, hc]

theorem head?_escaped_ne {cs : List Char} (h : '\n' ∉ cs) (allowed : Nat) (lines : Bool)
    (run : Nat) : (escaped allowed lines run cs).head? ≠ some '\n' := by
  cases cs with
  | nil => exact Option.some_ne_none _ ∘ Eq.symm
  | cons c cs =>
      rw [List.mem_cons, not_or] at h
      have hline : c ≠ '\n' := Ne.symm h.1
      by_cases hquote : c = '"'
      · by_cases hrun : run < allowed <;> simp [escaped, hquote, hrun]
      · cases hescape : escapeOf? c with
        | none => simp [escaped, hquote, hline, hescape]
        | some e =>
            obtain ⟨mark, more, rfl, -⟩ := escape?_of_escapeOf? hescape
            simp [escaped, hquote, hline, hescape]

theorem Traits.hasControl_eq_false {cs : List Char} (h : (Traits.of cs).hasControl = false) :
    ∀ c ∈ cs, isControl c = false := by
  simpa [Traits.of] using h

theorem Traits.hasLineEnd_eq_false {cs : List Char} (h : (Traits.of cs).hasLineEnd = false) :
    '\n' ∉ cs := by
  intro hmem
  simp only [Traits.of, List.any_eq_false, decide_eq_true_eq] at h
  exact h _ hmem rfl

theorem Traits.isPlain_of_eq_false {cs : List Char} (hcontrol : (Traits.of cs).hasControl = false)
    (hlines : (Traits.of cs).hasLineEnd = false) : ∀ c ∈ cs, isPlain c = true := by
  intro c hc
  refine isPlain_of_not_isControl (Traits.hasControl_eq_false hcontrol c hc) ?_
  rintro rfl
  exact Traits.hasLineEnd_eq_false hlines hc

theorem return_not_mem_of_control {cs : List Char} (h : ∀ c ∈ cs, isControl c = false) :
    '\r' ∉ cs := by
  intro hmem
  have hreturn : isControl '\r' = true := by decide
  rw [h _ hmem] at hreturn
  cases hreturn

section Forms

variable {cs rest : List Char} (hrest : EndsText rest)
include hrest

theorem string?_inDouble :
    string? (inDouble cs ++ rest) = some (.text (.ofList cs), rest) := by
  have hfuel : cs.length < (escaped 0 false 0 cs ++ '"' :: rest).length + 1 := by
    have := length_le_escaped 0 false 0 cs
    simp only [List.length_append]
    omega
  have hform : inDouble cs ++ rest = '"' :: (escaped 0 false 0 cs ++ '"' :: rest) := by
    simp [inDouble]
  rw [hform]
  exact string?_of_basic ((opensWith_escaped 0 false 0 cs).ne_quotes hrest.1)
    (basicString?_escaped cs hfuel rest)

theorem string?_inSingle (hplain : ∀ c ∈ cs, isPlain c = true)
    (hquotes : longestRun '\'' 0 cs = 0) :
    string? (inSingle cs ++ rest) = some (.text (.ofList cs), rest) := by
  have hform : inSingle cs ++ rest = '\'' :: (cs ++ '\'' :: rest) := by simp [inSingle]
  have hread : ∀ c ∈ cs, isPlain c = true ∧ c ≠ '\'' := by
    intro c hc
    refine ⟨hplain c hc, ?_⟩
    rintro rfl
    exact not_mem_of_longestRun hquotes hc
  rw [hform]
  exact string?_of_literal ((opensWith_of_longestRun (Nat.le_of_eq hquotes)).ne_quotes hrest.2)
    (literalString?_of_plain hread rest)

theorem string?_inDoubleLines (hreturn : '\r' ∉ rest) :
    string? (inDoubleLines (Traits.of cs) cs ++ rest) = some (.text (.ofList cs), rest) := by
  have hbody := skipFirstLineEnd_body (return_not_mem_escaped 2 true 0 cs) hreturn
    (fun hlines => head?_escaped_ne (Traits.hasLineEnd_eq_false hlines) 2 true 0)
    (.inl rfl : '"' = '"' ∨ '"' = '\'')
  have hform : inDoubleLines (Traits.of cs) cs ++ rest =
      '"' :: '"' :: '"' :: ((if (Traits.of cs).hasLineEnd then ['\n'] else []) ++
        (escaped 2 true 0 cs ++ '"' :: '"' :: '"' :: rest)) := by
    simp [inDoubleLines, opening]
  have hfuel : cs.length < (escaped 2 true 0 cs ++ '"' :: '"' :: '"' :: rest).length + 1 := by
    have := length_le_escaped 2 true 0 cs
    simp only [List.length_append]
    omega
  rw [hform]
  simp only [string?, hbody, longString?_escaped cs hrest.1 (Nat.zero_le 2) hfuel,
    Option.bind_eq_bind, Option.bind_some, Option.pure_def]

theorem string?_inSingleLines (hreturn : '\r' ∉ rest) (hcontrol : ∀ c ∈ cs, isControl c = false)
    (hquotes : longestRun '\'' 0 cs ≤ 2) :
    string? (inSingleLines (Traits.of cs) cs ++ rest) = some (.text (.ofList cs), rest) := by
  have hfirst : (Traits.of cs).hasLineEnd = false → cs.head? ≠ some '\n' := by
    intro hlines hhead
    exact Traits.hasLineEnd_eq_false hlines (List.mem_of_mem_head? hhead)
  have hbody := skipFirstLineEnd_body (return_not_mem_of_control hcontrol) hreturn hfirst
    (.inr rfl : '\'' = '"' ∨ '\'' = '\'')
  have hform : inSingleLines (Traits.of cs) cs ++ rest =
      '\'' :: '\'' :: '\'' :: ((if (Traits.of cs).hasLineEnd then ['\n'] else []) ++
        (cs ++ '\'' :: '\'' :: '\'' :: rest)) := by
    simp [inSingleLines, opening]
  have hplain : ∀ c ∈ cs, isPlain c = true ∨ c = '\n' := by
    intro c hc
    by_cases hline : c = '\n'
    · exact .inr hline
    · exact .inl (isPlain_of_not_isControl (hcontrol c hc) hline)
  have hfuel : cs.length < (cs ++ '\'' :: '\'' :: '\'' :: rest).length + 1 := by
    simp only [List.length_append]
    omega
  rw [hform]
  simp only [string?, hbody, longString?_of_plain hplain hrest.2 hquotes hfuel,
    Option.bind_eq_bind, Option.bind_some, Option.pure_def]

end Forms

/-- A text is read back from the form that it is written in. -/
theorem string?_textForm (s : String) {rest : List Char} (hrest : EndsText rest)
    (hreturn : '\r' ∉ rest) :
    string? ((textForm s).toList ++ rest) = some (.text s, rest) := by
  have hlist : String.ofList s.toList = s := String.ofList_toList
  unfold textForm
  dsimp only
  split_ifs with hdouble hsingle hdoubleLines hsingleLines hlines
  all_goals rw [String.toList_ofList]
  · rw [string?_inDouble hrest, hlist]
  · simp only [Bool.and_eq_true, Bool.not_eq_true', decide_eq_true_eq] at hsingle
    obtain ⟨⟨hcontrol, hquotes⟩, hlines⟩ := hsingle
    rw [string?_inSingle hrest (Traits.isPlain_of_eq_false hcontrol hlines) hquotes, hlist]
  · rw [string?_inDoubleLines hrest hreturn, hlist]
  · simp only [Bool.and_eq_true, Bool.not_eq_true', decide_eq_true_eq] at hsingleLines
    obtain ⟨hcontrol, hquotes⟩ := hsingleLines
    rw [string?_inSingleLines hrest hreturn (Traits.hasControl_eq_false hcontrol) hquotes, hlist]
  · rw [string?_inDoubleLines hrest hreturn, hlist]
  · rw [string?_inDouble hrest, hlist]

theorem return_not_mem_inDouble (cs : List Char) : '\r' ∉ inDouble cs := by
  simp [inDouble, return_not_mem_escaped]

theorem return_not_mem_inSingle {cs : List Char} (h : (Traits.of cs).hasControl = false) :
    '\r' ∉ inSingle cs := by
  simp [inSingle, return_not_mem_of_control (Traits.hasControl_eq_false h)]

theorem return_not_mem_opening (t : Traits) {quote : Char} (h : quote = '"' ∨ quote = '\'') :
    '\r' ∉ opening t quote := by
  rcases h with rfl | rfl <;> cases t.hasLineEnd <;> simp_all [opening]

theorem return_not_mem_textForm (s : String) : '\r' ∉ (textForm s).toList := by
  have hdoubleLines : '\r' ∉ inDoubleLines (Traits.of s.toList) s.toList := by
    simp [inDoubleLines, return_not_mem_escaped, return_not_mem_opening]
  unfold textForm
  dsimp only
  split_ifs with hdouble hsingle hdoubleLines' hsingleLines hlines
  all_goals rw [String.toList_ofList]
  · exact return_not_mem_inDouble _
  · simp only [Bool.and_eq_true, Bool.not_eq_true'] at hsingle
    exact return_not_mem_inSingle hsingle.1.1
  · exact hdoubleLines
  · simp only [Bool.and_eq_true, Bool.not_eq_true'] at hsingleLines
    have hcontrol := return_not_mem_of_control (Traits.hasControl_eq_false hsingleLines.1)
    simp [inSingleLines, return_not_mem_opening, hcontrol]
  · exact hdoubleLines
  · exact return_not_mem_inDouble _

/-- A text begins with a quote. -/
theorem exists_quote_textForm (s : String) :
    ∃ quote body, (textForm s).toList = quote :: body ∧ (quote = '"' ∨ quote = '\'') := by
  unfold textForm
  dsimp only
  split_ifs
  all_goals rw [String.toList_ofList]
  · exact ⟨_, _, rfl, .inl rfl⟩
  · exact ⟨_, _, rfl, .inr rfl⟩
  · exact ⟨_, _, rfl, .inl rfl⟩
  · exact ⟨_, _, rfl, .inr rfl⟩
  · exact ⟨_, _, rfl, .inl rfl⟩
  · exact ⟨_, _, rfl, .inl rfl⟩

/-! ## Keys -/

/-- What follows a key does not belong to a bare one. -/
def EndsKey (rest : List Char) : Prop := ∀ c ∈ rest.head?, isBare c = false

theorem simpleKey?_inDouble (cs rest : List Char) :
    simpleKey? (inDouble cs ++ rest) = some (.ofList cs, rest) := by
  have hform : inDouble cs ++ rest = '"' :: (escaped 0 false 0 cs ++ '"' :: rest) := by
    simp [inDouble]
  have hfuel : cs.length < (escaped 0 false 0 cs ++ '"' :: rest).length + 1 := by
    have := length_le_escaped 0 false 0 cs
    simp only [List.length_append]
    omega
  rw [hform]
  simp only [simpleKey?, basicString?_escaped cs hfuel rest, Option.bind_eq_bind, Option.bind_some,
    Option.pure_def]

theorem simpleKey?_inSingle {cs : List Char} (hplain : ∀ c ∈ cs, isPlain c = true ∧ c ≠ '\'')
    (rest : List Char) : simpleKey? (inSingle cs ++ rest) = some (.ofList cs, rest) := by
  have hform : inSingle cs ++ rest = '\'' :: (cs ++ '\'' :: rest) := by simp [inSingle]
  rw [hform]
  simp only [simpleKey?, literalString?_of_plain hplain rest, Option.bind_eq_bind,
    Option.bind_some, Option.pure_def]

theorem isBare_quotes : isBare '"' = false ∧ isBare '\'' = false := by decide

theorem simpleKey?_of_bare {cs rest : List Char} (hne : cs ≠ []) (hbare : ∀ c ∈ cs, isBare c = true)
    (hrest : EndsKey rest) : simpleKey? (cs ++ rest) = some (.ofList cs, rest) := by
  obtain ⟨c, cs, rfl⟩ := List.exists_cons_of_ne_nil hne
  have hstop : rest.takeWhile isBare = [] ∧ rest.dropWhile isBare = rest := by
    cases rest with
    | nil => exact ⟨rfl, rfl⟩
    | cons d rest =>
        have hd : ¬ isBare d = true := by simp [hrest d rfl]
        exact ⟨List.takeWhile_cons_of_neg hd, List.dropWhile_cons_of_neg hd⟩
  have htake : (c :: cs ++ rest).takeWhile isBare = c :: cs := by
    rw [List.takeWhile_append_of_pos hbare, hstop.1, List.append_nil]
  have hdrop : (c :: cs ++ rest).dropWhile isBare = rest := by
    rw [List.dropWhile_append_of_pos hbare, hstop.2]
  have hc : isBare c = true := hbare c List.mem_cons_self
  unfold simpleKey?
  split
  · rename_i heq
    obtain rfl : c = '"' := (List.cons.inj heq).1
    rw [isBare_quotes.1] at hc
    cases hc
  · rename_i heq
    obtain rfl : c = '\'' := (List.cons.inj heq).1
    rw [isBare_quotes.2] at hc
    cases hc
  · dsimp only
    rw [htake, hdrop]
    rfl

/-- The three forms of a key. -/
theorem keyForm_cases (s : String) :
    ((keyForm s).toList = s.toList ∧ s.toList ≠ [] ∧ ∀ c ∈ s.toList, isBare c = true) ∨
    (keyForm s).toList = inDouble s.toList ∨
    ((keyForm s).toList = inSingle s.toList ∧ (Traits.of s.toList).hasControl = false ∧
      ∀ c ∈ s.toList, isPlain c = true ∧ c ≠ '\'') := by
  unfold keyForm
  dsimp only
  split_ifs with hbare hdouble hsingle
  · left
    simp only [Bool.and_eq_true, Bool.not_eq_true', List.isEmpty_eq_false_iff,
      List.all_eq_true] at hbare
    exact ⟨rfl, hbare.1, hbare.2⟩
  all_goals rw [String.toList_ofList]
  · exact .inr (.inl rfl)
  · simp only [Bool.and_eq_true, Bool.not_eq_true', decide_eq_true_eq] at hsingle
    obtain ⟨⟨hcontrol, hquotes⟩, hlines⟩ := hsingle
    refine .inr (.inr ⟨rfl, hcontrol, fun c hc => ?_⟩)
    refine ⟨Traits.isPlain_of_eq_false hcontrol hlines c hc, ?_⟩
    rintro rfl
    exact not_mem_of_longestRun hquotes hc
  · exact .inr (.inl rfl)

theorem simpleKey?_keyForm (s : String) {rest : List Char} (hrest : EndsKey rest) :
    simpleKey? ((keyForm s).toList ++ rest) = some (s, rest) := by
  have hlist : String.ofList s.toList = s := String.ofList_toList
  obtain ⟨hform, hne, hbare⟩ | hform | ⟨hform, -, hplain⟩ := keyForm_cases s
  · rw [hform, simpleKey?_of_bare hne hbare hrest, hlist]
  · rw [hform, simpleKey?_inDouble, hlist]
  · rw [hform, simpleKey?_inSingle hplain, hlist]

theorem return_not_mem_keyForm (s : String) : '\r' ∉ (keyForm s).toList := by
  obtain ⟨hform, -, hbare⟩ | hform | ⟨hform, hcontrol, -⟩ := keyForm_cases s
  · rw [hform]
    intro hmem
    have hreturn : isBare '\r' = false := by decide
    rw [hbare _ hmem] at hreturn
    cases hreturn
  · rw [hform]
    exact return_not_mem_inDouble _
  · rw [hform]
    exact return_not_mem_inSingle hcontrol

/-- A key begins with neither a blank nor a bracket nor the mark of a comment. -/
theorem exists_first_keyForm (s : String) :
    ∃ c cs, (keyForm s).toList = c :: cs ∧ c ∉ [' ', '\t', '\n', '\r', '#', ']', '['] := by
  have hbareMarks : ∀ c ∈ [' ', '\t', '\n', '\r', '#', ']', '['], isBare c = false := by
    simp only [List.forall_mem_cons]
    exact ⟨rfl, rfl, rfl, rfl, rfl, rfl, rfl, fun c hc => absurd hc List.not_mem_nil⟩
  obtain ⟨hform, hne, hbare⟩ | hform | ⟨hform, -, -⟩ := keyForm_cases s
  · obtain ⟨c, cs, hcons⟩ := List.exists_cons_of_ne_nil hne
    refine ⟨c, cs, hform.trans hcons, fun hmem => ?_⟩
    have hc : isBare c = true := hbare c (hcons ▸ List.mem_cons_self)
    rw [hbareMarks c hmem] at hc
    cases hc
  · exact ⟨'"', _, hform, by decide⟩
  · exact ⟨'\'', _, hform, by decide⟩

end RecordListing.Toml
