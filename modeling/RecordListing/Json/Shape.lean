import RecordListing.Json.Reader

namespace RecordListing.Json

/-!
# Reading values of a known shape

Readers of JSON that expect a certain shape: a text, a switch, one of several
names, a list, a map or a record. A record is an object with named fields, or an
array of their values in order; absent fields keep their defaults and unknown ones
are passed over.
-/

/-- A reader of a value with at most the given number of levels. -/
abbrev Shape (α : Type) := Nat → List Char → Outcome (α × List Char)

/-- Reports what stands at the start of `cs` in place of what was expected. -/
def mismatch {α : Type} (expected : String) (cs : List Char) : Outcome α :=
  match cs with
  | [] => fail .endOfValue []
  | 'n' :: rest => do fail (.wrongType .null expected) (← word ['u', 'l', 'l'] rest)
  | 't' :: rest => do fail (.wrongType (.bool true) expected) (← word ['r', 'u', 'e'] rest)
  | 'f' :: rest => do fail (.wrongType (.bool false) expected) (← word ['a', 'l', 's', 'e'] rest)
  | '"' :: rest => do
    let (s, rest) ← string rest
    fail (.wrongType (.text s) expected) rest
  | '[' :: rest => fail (.wrongType .sequence expected) ('[' :: rest)
  | '\x7b' :: rest => fail (.wrongType .map expected) ('\x7b' :: rest)
  | '-' :: rest => do
    let (n, rest) ← number true rest
    fail (.wrongType (.number n) expected) rest
  | c :: rest =>
    if c.isDigit then do
      let (n, rest) ← number false (c :: rest)
      fail (.wrongType (.number n) expected) rest
    else failNext .expectedValue (c :: rest)

namespace Shape

def text (expected : String) : Shape String := fun _ cs =>
  match skipBlank cs with
  | '"' :: rest => string rest
  | rest => mismatch expected rest

def switch : Shape Bool := fun _ cs =>
  match skipBlank cs with
  | 't' :: rest => do return (true, ← word ['r', 'u', 'e'] rest)
  | 'f' :: rest => do return (false, ← word ['a', 'l', 's', 'e'] rest)
  | rest => mismatch "a boolean" rest

def nothing (cs : List Char) : Outcome (List Char) :=
  match skipBlank cs with
  | 'n' :: rest => word ['u', 'l', 'l'] rest
  | rest => mismatch "unit" rest

/-- A value, or null for none. -/
def optional {α : Type} (shape : Shape α) : Shape (Option α) := fun depth cs =>
  match skipBlank cs with
  | 'n' :: rest => do return (none, ← word ['u', 'l', 'l'] rest)
  | rest => do
    let (v, rest) ← shape depth rest
    return (some v, rest)

/-- Goes one level down, past an opening bracket. -/
def inside {α : Type} (depth : Nat) (bracket : Char) (rest : List Char)
    (read : Nat → Outcome α) : Outcome α :=
  match depth with
  | 0 => failNext .tooDeep (bracket :: rest)
  | d + 1 => read d

def list {α : Type} (item : Shape α) : Shape (List α) := fun depth cs =>
  match skipBlank cs with
  | '[' :: rest => inside depth '[' rest fun d => items (item d) (rest.length + 1) true rest
  | rest => mismatch "a sequence" rest

/-- The members of an object with values of one shape; of repeated keys the last
counts. -/
def mapMembers {α : Type} (value : List Char → Outcome (α × List Char)) :
    Nat → Bool → Keyed α → List Char → Outcome (Keyed α × List Char)
  | 0, _, _, cs => fail .endOfObject cs
  | fuel + 1, first, acc, cs => do
    match ← nextMember first cs with
    | .closed rest => return (acc, rest)
    | .entry rest =>
      let (key, rest) ← string rest
      let rest ← colon rest
      let (v, rest) ← value rest
      mapMembers value fuel false (Keyed.put key v acc) rest

def map {α : Type} (value : Shape α) : Shape (Keyed α) := fun depth cs =>
  match skipBlank cs with
  | '\x7b' :: rest =>
    inside depth '\x7b' rest fun d => mapMembers (value d) (rest.length + 1) true [] rest
  | rest => mismatch "a map" rest

/-- The variant with the name that stands next. -/
def variantName {α : Type} (name : α → String) (all : List α) (cs : List Char) :
    Outcome (α × List Char) := do
  let (s, rest) ← text "variant identifier" 0 cs
  match all.find? fun v => name v = s with
  | some v => return (v, rest)
  | none => fail (.unknownVariant s (all.map name)) rest

/-- The variant named by the key that opens an object. -/
def variantKey {α : Type} (name : α → String) (all : List α) (cs : List Char) :
    Outcome (α × List Char) :=
  match skipBlank cs with
  | [] => fail .endOfObject []
  | '"' :: rest => variantName name all ('"' :: rest)
  | '\x7d' :: rest => failNext .expectedValue ('\x7d' :: rest)
  | rest => failNext .keyNotText rest

/-- One of several names, by itself or as the only key of an object with null. -/
def variant {α : Type} (name : α → String) (all : List α) : Shape α := fun depth cs =>
  match skipBlank cs with
  | [] => fail .endOfValue []
  | '"' :: rest => variantName name all ('"' :: rest)
  | '\x7b' :: rest => inside depth '\x7b' rest fun _ => do
    let (v, rest) ← variantKey name all rest
    let rest ← colon rest
    let rest ← nothing rest
    match skipBlank rest with
    | '\x7d' :: rest => return (v, rest)
    | [] => fail .endOfObject []
    | rest => fail .expectedValue rest
  | rest => failNext .expectedValue rest

/-! ## Values passed over -/

inductive Bracket where
  | list
  | object
  deriving DecidableEq

def skipStringFrom : Nat → List Char → Outcome (List Char)
  | _, [] => fail .endOfString []
  | 0, cs => fail .endOfString cs
  | _ + 1, '"' :: cs => .ok cs
  | fuel + 1, '\\' :: 'u' :: cs => do
    let (_, rest) ← hexUnit cs
    skipStringFrom fuel rest
  | fuel + 1, '\\' :: cs => do
    let (_, rest) ← escape cs
    skipStringFrom fuel rest
  | fuel + 1, c :: cs =>
    if c.toNat < 0x20 then fail .controlCharacter (c :: cs) else skipStringFrom fuel cs

/-- Passes over the rest of a string; half a surrogate pair is no fault here. -/
def skipString (cs : List Char) : Outcome (List Char) := skipStringFrom cs.length cs

def skipExponent (cs : List Char) : Outcome (List Char) :=
  let (_, cs) := takeSign cs
  if startsWithDigit cs then .ok (cs.dropWhile Char.isDigit) else failNext .invalidNumber cs

def skipAfterDigits : List Char → Outcome (List Char)
  | '.' :: cs =>
    if startsWithDigit cs then
      match cs.dropWhile Char.isDigit with
      | 'e' :: rest => skipExponent rest
      | 'E' :: rest => skipExponent rest
      | rest => .ok rest
    else failNext .invalidNumber cs
  | 'e' :: cs => skipExponent cs
  | 'E' :: cs => skipExponent cs
  | cs => .ok cs

def skipNumber : List Char → Outcome (List Char)
  | [] => fail .invalidNumber []
  | c :: cs =>
    if !c.isDigit then failNext .invalidNumber (c :: cs)
    else if c = '0' then
      if startsWithDigit cs then failNext .invalidNumber cs else skipAfterDigits cs
    else skipAfterDigits (cs.dropWhile Char.isDigit)

/-- A key within an object passed over, and the colon after it. -/
def skipKey (cs : List Char) : Outcome (List Char) :=
  match skipBlank cs with
  | [] => fail .endOfObject []
  | '"' :: rest => do colon (← skipString rest)
  | rest => failNext .keyNotText rest

/-- Whether a bracket closes what `b` opened. -/
def Bracket.closedBy (b : Bracket) (c : Char) : Bool :=
  match b with
  | .list => c = ']'
  | .object => c = '\x7d'

mutual

/-- Passes over a value inside the brackets that are open, innermost first. -/
def skipFrom : Nat → List Bracket → List Char → Outcome (List Char)
  | 0, _, cs => fail .endOfValue cs
  | fuel + 1, opened, cs =>
    match skipBlank cs with
    | [] => fail .endOfValue []
    | 'n' :: rest => do skipEnd fuel opened (← word ['u', 'l', 'l'] rest)
    | 't' :: rest => do skipEnd fuel opened (← word ['r', 'u', 'e'] rest)
    | 'f' :: rest => do skipEnd fuel opened (← word ['a', 'l', 's', 'e'] rest)
    | '-' :: rest => do skipEnd fuel opened (← skipNumber rest)
    | '"' :: rest => do skipEnd fuel opened (← skipString rest)
    | '[' :: rest => skipOpened fuel .list opened rest
    | '\x7b' :: rest => skipOpened fuel .object opened rest
    | c :: rest =>
      if c.isDigit then do skipEnd fuel opened (← skipNumber (c :: rest))
      else failNext .expectedValue (c :: rest)

/-- Goes on after an opening bracket. -/
def skipOpened : Nat → Bracket → List Bracket → List Char → Outcome (List Char)
  | 0, _, _, cs => fail .endOfValue cs
  | fuel + 1, b, opened, cs =>
    match skipBlank cs with
    | [] => fail (if b = .list then .endOfList else .endOfObject) []
    | c :: rest =>
      if b.closedBy c then skipEnd fuel opened rest
      else if b = .object then do skipFrom fuel (b :: opened) (← skipKey (c :: rest))
      else skipFrom fuel (b :: opened) (c :: rest)

/-- Goes on after a value. -/
def skipEnd : Nat → List Bracket → List Char → Outcome (List Char)
  | _, [], cs => .ok cs
  | 0, _, cs => fail .endOfValue cs
  | fuel + 1, b :: opened, cs =>
    match skipBlank cs with
    | [] => fail (if b = .list then .endOfList else .endOfObject) []
    | c :: rest =>
      if c = ',' then
        if b = .object then do skipFrom fuel (b :: opened) (← skipKey rest)
        else skipFrom fuel (b :: opened) rest
      else if b.closedBy c then skipEnd fuel opened rest
      else failNext (if b = .list then .expectedItemEnd else .expectedMemberEnd) (c :: rest)

end

/-- Passes over a value of any depth. -/
def skip (cs : List Char) : Outcome (List Char) := skipFrom (2 * cs.length + 2) [] cs

/-! ## Records -/

structure Field (σ : Type) where
  name : String
  /-- Reads the field's value into what is known of the record. -/
  read : σ → Shape σ

/-- A field of a given shape. -/
def field {σ α : Type} (name : String) (shape : Shape α) (set : α → σ → σ) : Field σ :=
  ⟨name, fun s depth cs => do
    let (v, rest) ← shape depth cs
    return (set v s, rest)⟩

/-- The fields of a record by position. Values after the last are not allowed. -/
def positions {σ : Type} (depth : Nat) :
    List (Field σ) → Bool → σ → List Char → Outcome (σ × List Char)
  | [], _, s, cs => do return (s, ← endOfItems cs)
  | f :: fs, first, s, cs => do
    match ← nextItem first cs with
    | .closed rest => return (s, rest)
    | .entry rest =>
      let (s, rest) ← f.read s depth rest
      positions depth fs false s rest

/-- What is left once a repeated key is noticed. -/
def afterRepeated (cs : List Char) : List Char :=
  match skipBlank cs with
  | '\x7d' :: rest => rest
  | rest => rest

/-- The fields of a record by name. -/
def fields {σ : Type} (all : List (Field σ)) (depth : Nat) :
    Nat → Bool → List String → σ → List Char → Outcome (σ × List Char)
  | 0, _, _, _, cs => fail .endOfObject cs
  | fuel + 1, first, seen, s, cs => do
    match ← nextMember first cs with
    | .closed rest => return (s, rest)
    | .entry rest =>
      let (key, rest) ← string rest
      match all.find? fun f => f.name = key with
      | none =>
        let rest ← skip (← colon rest)
        fields all depth fuel false seen s rest
      | some f =>
        if key ∈ seen then fail (.repeatedField key) (afterRepeated rest)
        else
          let rest ← colon rest
          let (s, rest) ← f.read s depth rest
          fields all depth fuel false (key :: seen) s rest

def record {σ : Type} (typeName : String) (start : σ) (all : List (Field σ)) : Shape σ :=
  fun depth cs =>
    match skipBlank cs with
    | '[' :: rest => inside depth '[' rest fun d => positions d all true start rest
    | '\x7b' :: rest =>
      inside depth '\x7b' rest fun d => fields all d (rest.length + 1) true [] start rest
    | rest => mismatch ("struct " ++ typeName) rest

/-- Reads a whole text of this shape. -/
def ofText {α : Type} (shape : Shape α) (text : String) : Except String α :=
  whole (shape depthLimit) text

end Shape

end RecordListing.Json
