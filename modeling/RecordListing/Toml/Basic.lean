import RecordListing.Binary64.Reader
import RecordListing.Keyed

namespace RecordListing

/-!
# TOML values

While a document is read, a table also knows how it came to be: by its own header,
by a header further down, or by a dotted key. That decides what may still be added
to it. Its entries stand in the order in which they were opened.
-/

inductive Toml where
  | text (s : String)
  | integer (n : Int)
  | float (x : Binary64.Extended)
  | bool (b : Bool)
  /-- A date, a time of day or both, in normal form. -/
  | instant (s : String)
  | array (items : List Toml)
  | table (entries : List (String × Toml))

namespace Toml

inductive Origin where
  | header
  | laterHeader
  | dottedKey
  deriving DecidableEq

inductive Node where
  | leaf (v : Toml)
  | table (origin : Origin) (entries : List (String × Node))
  | tables (elements : List (List (String × Node)))

abbrev Tree := List (String × Node)

namespace Node

mutual

def toToml : Node → Toml
  | .leaf v => v
  | .table _ entries => .table (entriesToToml entries)
  | .tables elements => .array (elementsToToml elements)

def entriesToToml : List (String × Node) → List (String × Toml)
  | [] => []
  | (k, n) :: rest => (k, n.toToml) :: entriesToToml rest

def elementsToToml : List (List (String × Node)) → List Toml
  | [] => []
  | e :: rest => .table (entriesToToml e) :: elementsToToml rest

end

end Node

namespace Tree

/-- Sets an entry: in its place if the key is there, else at the end. -/
def set (key : String) (n : Node) (t : Tree) : Tree :=
  match Keyed.get? key t with
  | some _ => Keyed.replace key n t
  | none => t ++ [(key, n)]

/-- Sets an entry at the end. -/
def setLast (key : String) (n : Node) (t : Tree) : Tree := t.filter (·.1 ≠ key) ++ [(key, n)]

/-- Changes the last of a list, if there is one. -/
def changeLast {α : Type} (f : α → Option α) : List α → Option (List α)
  | [] => none
  | [a] => (f a).map ([·])
  | a :: rest => (changeLast f rest).map (a :: ·)

/-- Adds a value under a dotted key: a table is opened by such keys only, and no
key is set twice. -/
def addKey (key : String) (v : Toml) : List String → Tree → Option Tree
  | [], t =>
    match Keyed.get? key t with
    | some _ => none
    | none => some (set key (.leaf v) t)
  | p :: ps, t =>
    match Keyed.get? p t with
    | none => (addKey key v ps []).map fun sub => set p (.table .dottedKey sub) t
    | some (.table .dottedKey sub) =>
      (addKey key v ps sub).map fun sub => set p (.table .dottedKey sub) t
    | some (.table .laterHeader sub) =>
      if ps.isEmpty then none
      else (addKey key v ps sub).map fun sub => set p (.table .laterHeader sub) t
    | some (.tables elements) =>
      if ps.isEmpty then none
      else (changeLast (addKey key v ps) elements).map fun es => set p (.tables es) t
    | _ => none

/-- Changes the table that a header's path names; of a list of tables, the last. -/
def changeAt (f : Tree → Option Tree) : List String → Tree → Option Tree
  | [], t => f t
  | p :: ps, t =>
    match Keyed.get? p t with
    | none => (changeAt f ps []).map fun sub => set p (.table .laterHeader sub) t
    | some (.table origin sub) => (changeAt f ps sub).map fun sub => set p (.table origin sub) t
    | some (.tables elements) =>
      (changeLast (changeAt f ps) elements).map fun es => set p (.tables es) t
    | some (.leaf _) => none

/-- Opens a table by its header, once; then it stands last. -/
def openTable (key : String) (t : Tree) : Option Tree :=
  match Keyed.get? key t with
  | none => some (set key (.table .header []) t)
  | some (.table .laterHeader sub) => some (setLast key (.table .header sub) t)
  | some _ => none

/-- Opens one more table of a list of tables. -/
def openElement (key : String) (t : Tree) : Option Tree :=
  match Keyed.get? key t with
  | none => some (set key (.tables [[]]) t)
  | some (.tables elements) => some (set key (.tables (elements ++ [[]])) t)
  | some _ => none

end Tree

end Toml

end RecordListing
