import RecordListing.Selection

namespace RecordListing

/-!
# Field masks

The fields that a listing needs, each once, in the order in which its columns name
them.
-/

structure Mask where
  paths : List FieldPath
  deriving DecidableEq

namespace Mask

/-- The fields of the columns that are registered. -/
def ofColumns (e : Entity) (names : List ColumnName) : Mask :=
  ⟨distinct ((names.filterMap e.column?).map (·.path))⟩

/-- The fields shown, and the one to order by. -/
def ofSelection (e : Entity) (s : Selection) : Mask :=
  ofColumns e (s.columns ++ s.sortKey.toList)

def toText (m : Mask) : String := Text.join "," (m.paths.map (·.toText))

end Mask

end RecordListing
