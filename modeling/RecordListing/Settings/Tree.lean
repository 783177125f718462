import RecordListing.Binary64.Reader
import RecordListing.Keyed
import RecordListing.Text.Lowercase

namespace RecordListing

/-!
# Trees of settings

Settings before they have their types: scalars, lists and tables, each with the
place that it comes from. Keys are in lower case. A table put into a table is merged
with what is there, key by key; anything else replaces it.
-/

inductive Scalar where
  | unset
  | switch (b : Bool)
  | integer (n : Int)
  | float (x : Binary64.Extended)
  | text (s : String)
  deriving DecidableEq

inductive Setting where
  | scalar (origin : Option String) (v : Scalar)
  | list (origin : Option String) (items : List Setting)
  | table (origin : Option String) (entries : List (String × Setting))

namespace Setting

def unset : Setting := .scalar none .unset

def empty : Setting := .table none []

/-- The entries of a table, and none of anything else. -/
def entries : Setting → Keyed Setting
  | .table _ es => es
  | _ => []

/-- The origin of a table. -/
def tableOrigin : Setting → Option String
  | .table origin _ => origin
  | _ => none

/-- Sets one entry, turning anything else into a table. -/
def withEntry (root : Setting) (key : String) (v : Setting) : Setting :=
  .table root.tableOrigin (Keyed.put key v root.entries)

mutual

/-- Puts a value below a key. -/
def put (key : String) : Setting → Setting → Setting
  | .table _ incoming, root =>
    let key := Text.lower key
    root.withEntry key (merge incoming ((Keyed.get? key root.entries).getD empty))
  | .scalar origin v, root => root.withEntry (Text.lower key) (.scalar origin v)
  | .list origin items, root => root.withEntry (Text.lower key) (.list origin items)

/-- Puts the entries one after the other. -/
def merge : List (String × Setting) → Setting → Setting
  | [], root => root
  | (key, v) :: rest, root => merge rest (put key v root)

end

/-! ## Paths to settings -/

inductive Step where
  | child (key : String)
  | index (i : Int)
  deriving DecidableEq

structure Key where
  first : String
  steps : List Step
  deriving DecidableEq

namespace Key

def isNameChar (c : Char) : Bool := c.isAlphanum || c = ' ' || c = '_' || c = '-'

/-- A name of at least one character, and what follows it. -/
def name? (cs : List Char) : Option (String × List Char) :=
  let name := cs.takeWhile isNameChar
  if name.isEmpty then none else some (.ofList name, cs.dropWhile isNameChar)

def skipBlank (cs : List Char) : List Char := cs.dropWhile fun c => c = ' ' || c = '\t'

/-- A position between brackets, whose opening one is already read. -/
def index? (cs : List Char) : Option (Int × List Char) :=
  let (negative, cs) := match skipBlank cs with
    | '-' :: cs => (true, cs)
    | cs => (false, cs)
  let digits := cs.takeWhile Char.isDigit
  let n : Int := naturalOf digits
  if digits.isEmpty ∨ 0x8000_0000_0000_0000 ≤ n then none
  else match skipBlank (cs.dropWhile Char.isDigit) with
    | ']' :: rest => some (if negative then -n else n, rest)
    | _ => none

def steps? : Nat → List Char → Option (List Step)
  | _, [] => some []
  | 0, _ => none
  | fuel + 1, '.' :: cs => do
    let (key, rest) ← name? cs
    return .child key :: (← steps? fuel rest)
  | fuel + 1, '[' :: cs => do
    let (i, rest) ← index? cs
    return .index i :: (← steps? fuel rest)
  | _, _ => none

/-- Names with dots between them and positions in brackets. -/
def ofText? (s : String) : Option Key := do
  let (first, rest) ← name? s.toList
  return ⟨first, ← steps? rest.length rest⟩

end Key

/-- The items of a list, and none of anything else. -/
def items : Setting → List Setting
  | .list _ is => is
  | _ => []

def listOrigin : Setting → Option String
  | .list origin _ => origin
  | _ => none

/-- The place in a list that a position means; negative ones count from the end. -/
def position (i : Int) (length : Nat) : Nat := if 0 ≤ i then i.toNat else length - i.natAbs

/-- Sets one item, with unset ones before it if the list is shorter. -/
def withItem (root : Setting) (i : Int) (change : Setting → Setting) : Setting :=
  let n := position i root.items.length
  let filled := root.items ++ List.replicate (n + 1 - root.items.length) unset
  .list root.listOrigin (filled.set n (change (filled.getD n unset)))

/-- Puts a value where the steps lead, making what is missing on the way. -/
def putAlong (v : Setting) : List Step → Setting → Setting
  | [], root => root
  | [.child key], root => put key v root
  | [.index i], root => root.withItem i fun _ => v
  | .child key :: rest, root =>
    let key := Text.lower key
    root.withEntry key (putAlong v rest ((Keyed.get? key root.entries).getD unset))
  | .index i :: rest, root => root.withItem i (putAlong v rest)

/-- Puts a value at a key; a key that is no path is a name as it stands. -/
def putAt (key : String) (v root : Setting) : Setting :=
  match Key.ofText? key with
  | none => put key v root
  | some ⟨first, []⟩ => put first v root
  | some ⟨first, steps⟩ => putAlong v (.child first :: steps) root

/-- Puts every entry of a layer at its key. -/
def overlay (root : Setting) (layer : Keyed Setting) : Setting :=
  layer.foldl (fun root e => putAt e.1 e.2 root) root

end Setting

end RecordListing
