import RecordListing.OrderKey
import RecordListing.Registry

namespace RecordListing

/-!
# Sorting records

A sorter knows, for every sortable column of a registry, where its values are and
how they compare. Where these comparisons are a total preorder, sorting is ascending
and keeps the order of records that tie.
-/

section Insertion

variable {α : Type}

/-- Inserts into a descending list, before the entries that are not greater. -/
def insertDescending (less : α → α → Bool) (x : α) : List α → List α
  | [] => [x]
  | y :: ys => if less x y then y :: insertDescending less x ys else x :: y :: ys

/-- The ascending order, entries inserted one after the other, each behind those
that it is not less than. The order is specified for a total preorder only. Under any
other comparison a stable sort may leave the entries in another order, or stop. -/
def stableSort (less : α → α → Bool) (xs : List α) : List α :=
  (xs.foldl (fun sorted x => insertDescending less x sorted) []).reverse

end Insertion

structure SortEntry where
  kind : Kind
  column : ColumnName
  path : FieldPath
  values : ValueKind

structure Sorter where
  entries : List SortEntry

namespace Sorter

def entriesOf (e : Entity) : List SortEntry :=
  e.sortable.filterMap fun name =>
    (e.column? name).map fun c => ⟨e.kind, name, c.path, c.kind⟩

def ofRegistry (r : Registry) : Sorter := ⟨Kind.all.flatMap fun k => entriesOf (r.entity k)⟩

def find? (s : Sorter) (kind : Kind) (column : ColumnName) : Option SortEntry :=
  s.entries.find? fun e => e.kind = kind ∧ e.column = column

def supports (s : Sorter) (kind : Kind) (column : ColumnName) : Bool :=
  (s.find? kind column).isSome

end Sorter

def SortEntry.compare (e : SortEntry) (a b : Json) : Ordering :=
  e.values.compare (a.field? e.path) (b.field? e.path)

/-- Without a key, and for a key that is not supported, the order stays. -/
def Sorter.sort (s : Sorter) (kind : Kind) (key : SortKey) (records : List Json) : List Json :=
  match key.bind (s.find? kind) with
  | none => records
  | some e => stableSort (fun a b => e.compare a b == .lt) records

end RecordListing
