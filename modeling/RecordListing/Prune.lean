import RecordListing.Mask

namespace RecordListing

/-!
# Pruned records

The part of a record that a mask names.
-/

namespace Json

/-- Sets the value below the keys. Missing objects on the way are made; a value on
the way that is not an object is left alone. -/
def putAt : List String → Json → Json → Json
  | [], _, root => root
  | [key], v, .obj ms => .obj (Keyed.put key v ms)
  | key :: rest, v, .obj ms =>
    .obj (Keyed.put key (putAt rest v ((Keyed.get? key ms).getD (.obj []))) ms)
  | _ :: _, _, root => root

/-- Copies the field at a path out of a record. -/
def copyAt (record out : Json) (path : FieldPath) : Json :=
  match record.field? path with
  | some v => putAt path.segments v out
  | none => out

/-- The fields at the paths of a record. -/
def prunePaths (record : Json) (paths : List FieldPath) : Json :=
  paths.foldl (copyAt record) (.obj [])

def prune (record : Json) (mask : Mask) : Json := record.prunePaths mask.paths

end Json

end RecordListing
