import RecordListing.Binary64.Reader
import RecordListing.Column
import RecordListing.Json.Printer

namespace RecordListing

/-!
# Order keys

Records are compared by a key of the value in their sort column. Absent values come
first, then numbers, then everything else by its text.
-/

/-- Integers compare exactly; next to a binary64 number they are rounded to one. -/
def Number.compare : Number → Number → Ordering
  | .int m, .int n => Ord.compare m n
  | a, b => Ord.compare (rounded a) (rounded b)
where
  rounded : Number → Binary64
    | .int n => .ofInt n
    | .float x => x

/-- A number within a text, blanks around it apart: an integer of 128 bits, or else
the nearest finite binary64 number. -/
def Number.ofText? (s : String) : Option Number :=
  let cs := (Text.trim s).toList
  match integerOf? (-0x8000_0000_0000_0000_0000_0000_0000_0000)
      0x7FFF_FFFF_FFFF_FFFF_FFFF_FFFF_FFFF_FFFF cs with
  | some n => some (.int n)
  | none =>
    match Binary64.Extended.ofText? cs with
    | some (.finite x) => some (.float x)
    | _ => none

inductive OrderKey where
  | absent
  | number (n : Number)
  | other (text : String)
  deriving DecidableEq

namespace OrderKey

def compare : OrderKey → OrderKey → Ordering
  | .absent, .absent => .eq
  | .absent, _ => .lt
  | _, .absent => .gt
  | .number a, .number b => a.compare b
  | .number _, .other _ => .lt
  | .other _, .number _ => .gt
  | .other a, .other b => Ord.compare a b

def numeric : Option Json → OrderKey
  | none => .absent
  | some (.num n) => .number n
  | some (.str s) =>
    match Number.ofText? s with
    | some n => .number n
    | none => .other s
  | some v => .other v.toText

def textual : Option Json → OrderKey
  | none => .absent
  | some (.str s) => .other s
  | some v => .other v.toText

/-- Lists count by their length. -/
def counting : Option Json → OrderKey
  | some (.arr items) => .number (.int items.length)
  | v => numeric v

end OrderKey

def ValueKind.orderKey : ValueKind → Option Json → OrderKey
  | .integer => OrderKey.numeric
  | .text => OrderKey.textual
  | .timestamp => OrderKey.textual
  | .count => OrderKey.counting

/-- How a column of this kind orders two looked-up values. -/
def ValueKind.compare (kind : ValueKind) (a b : Option Json) : Ordering :=
  (kind.orderKey a).compare (kind.orderKey b)

end RecordListing
