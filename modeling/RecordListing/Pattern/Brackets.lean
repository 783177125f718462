import RecordListing.Pattern.Basic

namespace RecordListing.Pattern

/-!
# Sets of characters in brackets

Brackets hold characters, ranges, named classes, and further brackets, with
operators between them. A set is read for its depth.
-/

/-- Brackets that are open. -/
structure Bracket where
  /-- The depth of what stands on the left of the last operator. -/
  left : Option Nat := none
  /-- The depths of the items behind it. -/
  items : List Nat := []
  deriving DecidableEq

namespace Bracket

def add (b : Bracket) (depth : Nat) : Bracket := { b with items := depth :: b.items }

def depth (b : Bracket) : Nat :=
  match b.left with
  | none => joinedDepth b.items
  | some d => 1 + max d (joinedDepth b.items)

def operator (b : Bracket) : Bracket := { left := some b.depth }

end Bracket

def classNames : List String :=
  ["alnum", "alpha", "ascii", "blank", "cntrl", "digit", "graph", "lower", "print", "punct",
    "space", "upper", "word", "xdigit"]

/-- A named class after its opening bracket, and whether it holds all others. -/
def namedClass? : List Char → Option (Bool × List Char)
  | ':' :: cs =>
    let others := cs.head? = some '^'
    let cs := if others then cs.drop 1 else cs
    match cs.dropWhile (· ≠ ':') with
    | ':' :: ']' :: rest =>
      if .ofList (cs.takeWhile (· ≠ ':')) ∈ classNames then some (others, rest) else none
    | _ => none
  | _ => none

/-- Hyphens at the start stand for themselves. -/
def leadingHyphens? (f : Flags) : Nat → Bracket → List Char → Option (Bracket × List Char)
  | 0, _, _ => none
  | _, _, [] => none
  | fuel + 1, b, c :: cs =>
    if c = '-' then
      if f.admitsLiteral c false then leadingHyphens? f fuel (b.add 0) (f.skip cs) else none
    else some (b, c :: cs)

/-- The start of brackets, whose first one is already read. A closing bracket at the
start stands for itself. All other bytes than some are no text. -/
def opened? (f : Flags) (cs : List Char) : Option (Bracket × List Char) := do
  let cs ← match f.skip cs with
    | '^' :: cs => if f.unicode then some (f.skip cs) else none
    | cs => some cs
  let (b, cs) ← leadingHyphens? f (cs.length + 1) {} cs
  match cs with
  | ']' :: rest =>
    if b.items.isEmpty then
      if f.admitsLiteral ']' false ∧ f.skip rest ≠ [] then some (b.add 0, f.skip rest) else none
    else some (b, cs)
  | _ => some (b, cs)

/-- A character or a class within brackets. -/
def bracketItem? (f : Flags) : List Char → Option (Option Char × List Char)
  | [] => none
  | '\\' :: cs => do
    match ← escape? f cs with
    | (.literal c asByte, rest) =>
      if f.admitsLiteral c asByte ∧ (f.unicode ∨ c.toNat < 0x80) then some (some c, rest) else none
    | (.charClass others, rest) => if f.admitsClass others then some (none, rest) else none
    | _ => none
  | c :: cs =>
    if f.admitsLiteral c false ∧ (f.unicode ∨ c.toNat < 0x80) then some (some c, cs) else none

/-- The character that stands next, where a hyphen before it may be no range. -/
def peek (f : Flags) (cs : List Char) : Option Char :=
  if f.spaced then
    match cs.dropWhile Text.isBlank with
    | '#' :: rest => (rest.dropWhile Text.isBlank).head?
    | rest => rest.head?
  else cs.head?

/-- An item or a range of characters. -/
def range? (f : Flags) (cs : List Char) : Option (List Char) := do
  let (first, rest) ← bracketItem? f cs
  match f.skip rest with
  | [] => none
  | '-' :: more =>
    if peek f more = some ']' ∨ peek f more = some '-' then return '-' :: more
    let (last, rest) ← bracketItem? f (f.skip more)
    if (← first) ≤ (← last) then return rest else none
  | rest => return rest

/-- The rest of the brackets that are open, innermost first; the depth of the whole,
and what follows it. -/
def brackets? (f : Flags) : Nat → Bracket → List Bracket → List Char → Option (Nat × List Char)
  | 0, _, _, _ => none
  | fuel + 1, b, outer, cs =>
    match f.skip cs with
    | [] => none
    | '[' :: rest =>
      match namedClass? rest with
      | some (others, rest) =>
        if (if f.unicode then f.ignoreCase else others) then none
        else brackets? f fuel (b.add 0) outer rest
      | none => do
        let (inner, rest) ← opened? f rest
        brackets? f fuel inner (b :: outer) rest
    | ']' :: rest =>
      match outer with
      | [] => some (1 + b.depth, rest)
      | o :: os => brackets? f fuel (o.add (1 + b.depth)) os rest
    | '&' :: '&' :: rest => brackets? f fuel b.operator outer rest
    | '-' :: '-' :: rest => brackets? f fuel b.operator outer rest
    | '~' :: '~' :: rest => brackets? f fuel b.operator outer rest
    | cs => do brackets? f fuel (b.add 0) outer (← range? f cs)

/-- A set after its opening bracket: its depth and what follows it. -/
def set? (f : Flags) (cs : List Char) : Option (Nat × List Char) := do
  let (b, rest) ← opened? f cs
  brackets? f (rest.length + 1) b [] rest

end RecordListing.Pattern
