import RecordListing.Binary64.Basic
import RecordListing.Keyed

namespace RecordListing

/-!
# JSON values

A number keeps whether it was written as an integer or as a binary64 number.
The members of an object stand in a list, in the order of their keys when the
object was read.
-/

inductive Number where
  | int (n : Int)
  | float (x : Binary64)
  deriving DecidableEq

inductive Json where
  | null
  | bool (b : Bool)
  | num (n : Number)
  | str (s : String)
  | arr (items : List Json)
  | obj (members : List (String × Json))

namespace Json

abbrev Members := Keyed Json

instance : Inhabited Json := ⟨.null⟩

/-- The value below `v` along the keys. Nulls count as absent, and nothing stands
below a value that is not an object. -/
def lookup : List String → Json → Option Json
  | [], .null => none
  | [], v => some v
  | key :: rest, .obj members => (Keyed.get? key members).bind (lookup rest)
  | _ :: _, _ => none

/-- The type of a value, as messages name it. -/
def typeName : Json → String
  | .null => "null"
  | .bool _ => "a boolean"
  | .num _ => "a number"
  | .str _ => "a string"
  | .arr _ => "an array"
  | .obj _ => "an object"

@[simp] theorem lookup_null (keys : List String) : lookup keys .null = none := by
  cases keys <;> rfl

/-- Looking up along joined paths is looking up along the one and then the other. -/
theorem lookup_append (p q : List String) (v : Json) :
    lookup (p ++ q) v = (lookup p v).bind (lookup q) := by
  induction p generalizing v with
  | nil => cases v <;> simp [lookup]
  | cons key rest ih =>
      cases v with
      | obj members =>
          simp only [List.cons_append, lookup]
          cases Keyed.get? key members with
          | none => rfl
          | some w => simpa using ih w
      | _ => rfl

end Json

end RecordListing
