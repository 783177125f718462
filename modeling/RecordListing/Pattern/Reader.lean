import RecordListing.Pattern.Brackets
import RecordListing.Text.AlphanumericTable
import RecordListing.Text.Runs

namespace RecordListing.Pattern

/-!
# Reading patterns

A pattern is read part by part, from the left. A group that is open keeps what
stands before it; of what is complete only the depth is kept.
-/

/-- Why a pattern cannot be used. -/
inductive Fault where
  | malformed
  /-- Edges of words are known in ASCII only. -/
  | wordEdge
  deriving DecidableEq

def Fault.message : Fault → String
  | .malformed => "error building NFA"
  | .wordEdge => "unsupported regex feature for DFAs"

structure Part where
  depth : Nat := 0
  /-- Settings are parts that cannot be repeated. -/
  repeatable : Bool := true
  deriving DecidableEq

/-- What has been read of a group, or of the whole pattern. -/
structure Group where
  flags : Flags := {}
  /-- The depths of the complete alternatives. -/
  alternatives : List Nat := []
  /-- The parts of the last alternative, the last part first. -/
  parts : List Part := []
  deriving DecidableEq

namespace Group

def add (g : Group) (p : Part) : Group := { g with parts := p :: g.parts }

def alternative (g : Group) : Group :=
  { g with alternatives := joinedDepth (g.parts.map (·.depth)) :: g.alternatives, parts := [] }

def depth (g : Group) : Nat := joinedDepth g.alternative.alternatives

/-- The last part repeated. -/
def repeated? (g : Group) : Option Group :=
  match g.parts with
  | p :: ps =>
    if p.repeatable then some { g with parts := { depth := 1 + p.depth } :: ps } else none
  | [] => none

end Group

structure State where
  group : Group := {}
  /-- The groups around it, innermost first. -/
  outer : List Group := []
  names : List String := []
  wordEdge : Bool := false
  deriving DecidableEq

namespace State

def add (s : State) (p : Part) : State := { s with group := s.group.add p }

def enter (s : State) (flags : Flags) : State :=
  { s with group := { flags }, outer := s.group :: s.outer }

end State

/-! ## Groups -/

def isNameChar (c : Char) : Bool :=
  c = '_' || c = '.' || c = '[' || c = ']' || Text.memRuns Text.alphanumeric c

def isNameStart (c : Char) : Bool :=
  c = '_' || (Text.memRuns Text.alphanumeric c && !c.isDigit)

/-- The name of a group, up to the bracket that ends it. -/
def groupName? (cs : List Char) : Option (String × List Char) :=
  let name := cs.takeWhile (· ≠ '>')
  match cs.dropWhile (· ≠ '>') with
  | _ :: rest =>
    if name.head?.any isNameStart ∧ name.all isNameChar then some (.ofList name, rest) else none
  | [] => none

def enterNamed? (s : State) (cs : List Char) : Option (State × List Char) := do
  let (name, rest) ← groupName? cs
  if name ∈ s.names then none
  else return ({ s with names := name :: s.names }.enter s.group.flags, rest)

def flagNames : List Char := ['i', 'm', 's', 'U', 'u', 'R', 'x']

/-- Settings up to the colon or bracket that ends them, which is returned with what
follows it and the settings that were named. -/
def flags? (named : List Char) (on : Bool) (f : Flags) :
    List Char → Option (Flags × List Char × Char × List Char)
  | [] => none
  | c :: cs =>
    if c = ':' ∨ c = ')' then if named.head? = some '-' then none else some (f, named, c, cs)
    else if c ∈ named then none
    else if c = '-' then flags? (c :: named) false f cs
    else if c ∈ flagNames then flags? (c :: named) on (f.set c on) cs
    else none

/-- What follows a round bracket. Nothing may look ahead or back. -/
def group? (s : State) (cs : List Char) : Option (State × List Char) :=
  match s.group.flags.skip cs with
  | '?' :: '=' :: _ => none
  | '?' :: '!' :: _ => none
  | '?' :: '<' :: '=' :: _ => none
  | '?' :: '<' :: '!' :: _ => none
  | '?' :: 'P' :: '<' :: rest => enterNamed? s rest
  | '?' :: '<' :: rest => enterNamed? s rest
  | '?' :: rest => do
    let (f, named, last, rest) ← flags? [] true s.group.flags rest
    if last = ':' then return (s.enter f, rest)
    else if named.isEmpty then none
    else
      let g := { s.group with flags := f }
      return ({ s with group := g.add { repeatable := false } }, rest)
  | rest => some (s.enter s.group.flags, rest)

def leave? (s : State) : Option State :=
  match s.outer with
  | [] => none
  | g :: outer => some { s with group := g.add { depth := 1 + s.group.depth }, outer }

/-! ## Parts -/

def escapePart? (s : State) (cs : List Char) : Option (State × List Char) := do
  let f := s.group.flags
  match ← escape? f cs with
  | (.literal c asByte, rest) => if f.admitsLiteral c asByte then some (s.add {}, rest) else none
  | (.charClass others, rest) => if f.admitsClass others then some (s.add {}, rest) else none
  | (.wordEdge, rest) => some ({ s with wordEdge := s.wordEdge || f.unicode }.add {}, rest)
  | (.place, rest) => some (s.add {}, rest)

/-- A repetition takes as few as it can if a question mark follows. -/
def skipLazy : List Char → List Char
  | '?' :: cs => cs
  | cs => cs

/-- The part that begins with `c`. Counts of repetitions are not read. -/
def part? (s : State) (c : Char) (cs : List Char) : Option (State × List Char) :=
  let f := s.group.flags
  if c = '(' then group? s cs
  else if c = ')' then do return (← leave? s, cs)
  else if c = '|' then some ({ s with group := s.group.alternative }, cs)
  else if c = '[' then do
    let (depth, rest) ← set? f cs
    return (s.add { depth }, rest)
  else if c ∈ ['?', '*', '+'] then do return ({ s with group := ← s.group.repeated? }, skipLazy cs)
  else if c = '\x7b' then none
  else if c = '\\' then escapePart? s cs
  else if c = '.' then if f.unicode then some (s.add {}, cs) else none
  else if c = '^' ∨ c = '$' then some (s.add {}, cs)
  else if f.admitsLiteral c false then some (s.add {}, cs)
  else none

def run : Nat → State → List Char → Option State
  | 0, _, _ => none
  | fuel + 1, s, cs =>
    match s.group.flags.skip cs with
    | [] => some s
    | c :: cs => do
      let (s, rest) ← part? s c cs
      run fuel s rest

/-- Why a text is no pattern that can be used, if it is none. -/
def fault? (text : String) : Option Fault :=
  match run (text.length + 1) {} text.toList with
  | some s =>
    if ¬ s.outer.isEmpty ∨ depthLimit < s.group.depth then some .malformed
    else if s.wordEdge then some .wordEdge
    else none
  | none => some .malformed

end RecordListing.Pattern
