import RecordListing.Text.Runs
import RecordListing.Text.WidthTable

namespace RecordListing.Text

/-!
# Display width

How many columns a text takes. Most characters count by themselves; the rest
depend on what follows them (emoji sequences, ligatures, a carriage return before
a line feed), so a text is measured from its end to its start.
-/

/-- What the characters after the current one begin with. -/
inductive Following where
  | plain
  | lineFeed
  | emoji
  | modifier
  | regional
  | regionals
  /-- A zero-width joiner and then an emoji. -/
  | joinedEmoji
  | joinedKeycap
  /-- One regional indicator, or an even or odd number of them, before a joined emoji. -/
  | joinedRegional
  | joinedPairs
  | joinedPairsAndOne
  /-- The end of a tag sequence before a joined emoji, with its last letters. -/
  | tagLetters (count : Nat)
  /-- The same with digits before the letters. -/
  | tagDigits (count : Nat)
  | kiratVowel
  | kiratVowels
  | alef
  | lamed
  | buginese
  | bugineseVowel
  | khmer
  | lisu
  | orkhon
  | tifinagh
  | tifinaghJoined
  deriving DecidableEq

/-- The variation selector that a character is shown by. -/
inductive Selector where
  | emojiStyle
  | textStyle
  /-- Makes a quotation mark two columns wide. -/
  | fullWidth
  deriving DecidableEq

structure WidthContext where
  selector : Option Selector
  /-- A zero-width joiner stands before the letter that follows. -/
  joiner : Bool
  next : Following

namespace Following

/-- Classes that outlast a variation selector. -/
def beginsLigature : Following → Bool
  | .alef | .lamed | .buginese | .bugineseVowel | .khmer | .lisu | .orkhon | .tifinagh
  | .tifinaghJoined => true
  | _ => false

/-- Classes that a joiner or an ignorable mark before them leaves as they are. -/
def seesThroughMarks (f : Following) : Bool := f.beginsLigature && f != .alef

def isJoined : Following → Bool
  | .joinedEmoji | .joinedKeycap => true
  | _ => false

/-- Classes that a zero-width joiner ties an emoji to. -/
def isEmoji : Following → Bool
  | .emoji | .modifier | .regionals | .joinedPairs | .joinedPairsAndOne => true
  | _ => false

end Following

namespace WidthContext

def before (f : Following) : WidthContext := ⟨none, false, f⟩

def start : WidthContext := before .plain

/-- What remains when the selector that follows does not fit: ligatures only. -/
def outlasting (ctx : WidthContext) : WidthContext :=
  if ctx.next.beginsLigature then { ctx with selector := none } else start

def behindSelector (ctx : WidthContext) (s : Selector) : WidthContext :=
  if s = .emojiStyle ∧ ctx.next.isJoined ∧ ctx.selector = none then { ctx with selector := some s }
  else { ctx.outlasting with selector := some s }

end WidthContext

def alefs : List (Nat × Nat) :=
  [(0x622, 0x623), (0x625, 0x625), (0x627, 0x627), (0x671, 0x673), (0x675, 0x675),
   (0x773, 0x774), (0x870, 0x882)]

def lams : List (Nat × Nat) :=
  [(0x644, 0x644), (0x6B5, 0x6B8), (0x76A, 0x76A), (0x8A6, 0x8A6), (0x8C7, 0x8C7)]

/-- Khmer letters that take no column of their own under the sign coeng. -/
def khmerLetters : List (Nat × Nat) :=
  [(0x1780, 0x1782), (0x1784, 0x1787), (0x1789, 0x178C), (0x178E, 0x1793), (0x1795, 0x1798),
   (0x179B, 0x179D), (0x17A0, 0x17A0), (0x17A2, 0x17A2), (0x17A7, 0x17A7), (0x17AB, 0x17AC),
   (0x17AF, 0x17AF)]

def tifinaghLetters : List (Nat × Nat) := [(0x2D31, 0x2D65), (0x2D6F, 0x2D6F)]

/-- Ignorable marks that may stand inside a ligature. -/
def ligatureMarks : List (Nat × Nat) :=
  [(0x34F, 0x34F), (0x17B4, 0x17B5), (0x180B, 0x180D), (0x180F, 0x180F), (0xFE00, 0xFE0D),
   (0xE0100, 0xE01EF)]

def quotationMarks : List (Nat × Nat) := [(0x2018, 0x2019), (0x201C, 0x201D)]

def isRegional (n : Nat) : Bool := 0x1F1E6 ≤ n && n ≤ 0x1F1FF

def isModifier (n : Nat) : Bool := 0x1F3FB ≤ n && n ≤ 0x1F3FF

def isTagLetter (n : Nat) : Bool := 0xE0061 ≤ n && n ≤ 0xE007A

def isTagDigit (n : Nat) : Bool := 0xE0030 ≤ n && n ≤ 0xE0039

/-- The columns of a character away from its neighbours. -/
def ownWidth (c : Char) : Int :=
  let n := c.toNat
  if n ≤ 0xA0 then 1
  else if n == 0x17A4 then 2
  else if n == 0x17D8 then 3
  else if n == 0x2D7F then 1
  else if memRuns zeroWidth c then 0
  else if memRuns wide c then 2
  else 1

def ownFollowing (c : Char) : Following :=
  let n := c.toNat
  if isModifier n then .modifier
  else if isRegional n then .regional
  else if memRuns emojiPresentation c then .emoji
  else if memRuns alefs c then .alef
  else if n == 0x5DC then .lamed
  else if n == 0x1A10 then .buginese
  else if memRuns khmerLetters c then .khmer
  else if n == 0xA4FC || n == 0xA4FD then .lisu
  else if n == 0x10C03 then .orkhon
  else if n == 0x16D67 then .kiratVowel
  else if n == 0x16D68 then .kiratVowels
  else if memRuns tifinaghLetters c then .tifinagh
  else .plain

/-- Characters that take no column between a lam and the alef that it joins. -/
def joinsThrough (c : Char) : Bool := ownWidth c == 0 && !memRuns joinBreaking c

/-- What a tag character or a black flag is before the end of a tag sequence. The
sequence holds three to six letters, or three digits and then up to four letters. -/
def tagBefore (n : Nat) : Following → Option Following
  | .tagLetters count =>
    if isTagLetter n && count < 6 then some (.tagLetters (count + 1))
    else if isTagDigit n && count ≤ 4 then some (.tagDigits 1)
    else if n == 0x1F3F4 && 3 ≤ count then some .emoji else none
  | .tagDigits count =>
    if isTagDigit n && count < 3 then some (.tagDigits (count + 1))
    else if n == 0x1F3F4 && count == 3 then some .emoji else none
  | _ => none

/-- The width of `c` where the following characters change it, and what `c`
then means for the character before it. -/
def widthInSequence (c : Char) (ctx : WidthContext) : Option (Int × Following) :=
  let n := c.toNat
  if n == 0x200D && ctx.next.isEmoji then some (0, .joinedEmoji)
  else match ctx.next with
  | .modifier => if memRuns modifierBase c then some (0, .emoji) else none
  | .regional | .regionals => if isRegional n then some (1, .regionals) else none
  | .joinedEmoji =>
    if n == 0x20E3 then some (0, .joinedKeycap)
    else if isRegional n then some (1, .joinedRegional)
    else if isModifier n then some (0, .modifier)
    else if n == 0xE007F then some (0, .tagLetters 0)
    else if memRuns emojiPresentation c then some (0, .emoji) else none
  | .joinedRegional | .joinedPairsAndOne => if isRegional n then some (-1, .joinedPairs) else none
  | .joinedPairs => if isRegional n then some (3, .joinedPairsAndOne) else none
  | .tagLetters _ | .tagDigits _ => (tagBefore n ctx.next).map (0, ·)
  | .kiratVowel =>
    if n == 0x16D63 || n == 0x16D69 then some (0, .plain)
    else if n == 0x16D67 then some (0, .kiratVowels)
    else if n == 0x16D68 then some (1, .kiratVowel) else none
  | .kiratVowels => if n == 0x16D63 then some (0, .plain) else none
  | .alef =>
    if memRuns lams c then some (0, .plain)
    else if joinsThrough c then some (0, .alef) else none
  | .lamed => if ctx.joiner && n == 0x5D0 then some (0, .plain) else none
  | .buginese => if ctx.joiner && n == 0x1A17 then some (0, .bugineseVowel) else none
  | .bugineseVowel => if n == 0x1A15 then some (0, .plain) else none
  | .khmer => if n == 0x17D2 then some (-1, .plain) else none
  | .lisu => if 0xA4F8 ≤ n && n ≤ 0xA4FB then some (0, .plain) else none
  | .orkhon => if ctx.joiner && n == 0x10C32 then some (0, .plain) else none
  | .tifinagh =>
    if n == 0x2D7F then some (1, .tifinaghJoined)
    else if ctx.joiner && memRuns tifinaghLetters c then some (0, .plain) else none
  | .tifinaghJoined => if memRuns tifinaghLetters c then some (-1, .plain) else none
  | _ => none

/-- The columns of `c` where no selector follows it. -/
def widthUnselected (c : Char) (ctx : WidthContext) : Int × WidthContext :=
  if c.toNat == 0x200D && ctx.next.seesThroughMarks then (0, { ctx with joiner := true })
  else if memRuns ligatureMarks c && ctx.next.seesThroughMarks then (0, ctx)
  else match widthInSequence c ctx with
    | some (w, f) => (w, .before f)
    | none => (ownWidth c, .before (ownFollowing c))

def selector? (c : Char) : Option Selector :=
  let n := c.toNat
  if n == 0xFE0F then some .emojiStyle
  else if n == 0xFE0E then some .textStyle
  else if n == 0xFE01 then some .fullWidth
  else none

/-- The columns of `c` before `ctx`, and the context for the character before. -/
def widthBefore (c : Char) (ctx : WidthContext) : Int × WidthContext :=
  if ctx.selector = some .emojiStyle ∧ (memRuns emojiOnRequest c ∨ memRuns textOnRequest c) then
    (if ctx.next.isJoined then 0 else 2, .before .emoji)
  else
    let ctx := if ctx.selector = some .emojiStyle then ctx.outlasting else ctx
    if c.toNat ≤ 0xA0 then
      if c = '\n' then (1, .before .lineFeed)
      else if c = '\r' ∧ ctx.selector = none ∧ ctx.next = .lineFeed then (0, .start)
      else (1, .start)
    else match selector? c with
      | some s => (0, ctx.behindSelector s)
      | none =>
        if ctx.selector = some .textStyle ∧ memRuns textOnRequest c then (1, .start)
        else if ctx.selector = some .fullWidth ∧ memRuns quotationMarks c then (2, .start)
        else widthUnselected c { ctx with selector := none }

/-- The columns of a text: its characters measured from the last to the first. -/
def width (s : String) : Nat :=
  (s.toList.foldr (fun c (acc : Int × WidthContext) =>
    let step := widthBefore c acc.2
    (acc.1 + step.1, step.2)) (0, WidthContext.start)).1.toNat

end RecordListing.Text
