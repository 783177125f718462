import RecordListing.Text.CaseTable
import RecordListing.Text.Runs

namespace RecordListing.Text

/-!
# Lower case

Full lower-casing in every script. A capital sigma becomes the final form at
the end of a word, and a dotted capital I keeps its dot as a combining mark.
-/

/-- The lower-case form of one character away from its neighbours. -/
def lowerChar (c : Char) : Char :=
  if c.toNat < 0x80 then c.toLower
  else match caseRuns.find? fun r =>
      r.first ≤ c.toNat && c.toNat ≤ r.last && (c.toNat - r.first) % r.stride == 0 with
    | some r => Char.ofNat (c.toNat + r.shift).toNat
    | none => c

/-- Passing over ignorable characters, a cased character comes next. -/
def casedNext (cs : List Char) : Bool :=
  match cs.dropWhile (memRuns caseIgnorable) with
  | [] => false
  | c :: _ => memRuns cased c

/-- `before` holds the characters already passed, nearest first. -/
def lowerFrom (before : List Char) : List Char → List Char
  | [] => []
  | c :: cs =>
    let here :=
      if c = 'Σ' then [if casedNext before && !casedNext cs then 'ς' else 'σ']
      else if c = 'İ' then ['i', '\u0307']
      else [lowerChar c]
    here ++ lowerFrom (c :: before) cs

def lower (s : String) : String := .ofList (lowerFrom [] s.toList)

/-- Lower case of the letters A to Z alone. -/
def lowerAscii (s : String) : String := .ofList (s.toList.map Char.toLower)

end RecordListing.Text
