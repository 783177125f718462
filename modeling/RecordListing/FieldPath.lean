import RecordListing.Json.Basic
import RecordListing.Text.Parts

namespace RecordListing

/-!
# Field paths

A path names a field below a record by the keys that lead to it. Its text has the
keys between dots, each one or more ASCII letters, digits and underscores.
-/

def isSegment (s : String) : Bool :=
  !s.isEmpty && s.toList.all fun c => c.isAlphanum || c = '_'

theorem isSegment_iff {s : String} :
    isSegment s = true ↔ s ≠ "" ∧ ∀ c ∈ s.toList, c.isAlphanum = true ∨ c = '_' := by
  simp [isSegment]

theorem dot_not_mem_of_isSegment {s : String} (h : isSegment s = true) : '.' ∉ s.toList := by
  intro hdot
  exact absurd ((isSegment_iff.mp h).2 '.' hdot) (by decide)

structure FieldPath where
  segments : List String
  segments_ne_nil : segments ≠ []
  isSegment_of_mem : ∀ s ∈ segments, isSegment s = true
  deriving DecidableEq

namespace FieldPath

def ofText? (text : String) : Option FieldPath :=
  if h : ∀ s ∈ Text.parts '.' text, isSegment s = true then
    some ⟨Text.parts '.' text, Text.parts_ne_nil _ _, h⟩
  else none

def toText (path : FieldPath) : String := Text.join "." path.segments

theorem parts_toText (path : FieldPath) : Text.parts '.' path.toText = path.segments :=
  Text.parts_join rfl path.segments_ne_nil fun s hs =>
    dot_not_mem_of_isSegment (path.isSegment_of_mem s hs)

/-- A text is read as the path that is written so. -/
theorem ofText?_eq_some_iff {text : String} {path : FieldPath} :
    ofText? text = some path ↔ path.toText = text := by
  unfold ofText?
  constructor
  · intro h
    split at h
    · cases h
      exact Text.join_parts rfl text
    · cases h
  · rintro rfl
    simp only [parts_toText]
    rw [dif_pos path.isSegment_of_mem]

theorem isSome_ofText?_iff {text : String} :
    (ofText? text).isSome = true ↔ ∀ key ∈ Text.parts '.' text, isSegment key = true := by
  unfold ofText?
  split
  · rename_i h
    exact iff_of_true rfl h
  · rename_i h
    exact iff_of_false Bool.false_ne_true h

/-- A path is written in letters, digits, underscores and dots. -/
theorem isAlphanum_of_mem_toText {path : FieldPath} :
    ∀ c ∈ path.toText.toList, c.isAlphanum = true ∨ c = '_' ∨ c = '.' := by
  refine Text.forall_mem_join (by simp) fun s hs c hc => ?_
  have hsegment := isSegment_iff.mp (path.isSegment_of_mem s hs)
  exact (hsegment.2 c hc).imp_right Or.inl

theorem toText_injective {path path' : FieldPath} (h : path.toText = path'.toText) :
    path = path' :=
  Option.some.inj ((ofText?_eq_some_iff.mpr h).symm.trans (ofText?_eq_some_iff.mpr rfl))

end FieldPath

/-- The value of a field, absent when a key is missing or a null stands on the way. -/
def Json.field? (path : FieldPath) (record : Json) : Option Json := record.lookup path.segments

end RecordListing
