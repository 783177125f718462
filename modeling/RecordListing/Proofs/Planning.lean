import RecordListing.Listing
import RecordListing.Proofs.Entities

namespace RecordListing

/-!
# Accepted requests

What a plan says of the request it was made for, and what becomes of a listing whose
request is refused or planned.
-/

theorem Entity.select_eq_ok_iff {e : Entity} {key : SortKey} {requested : List ColumnName}
    {s : Selection} :
    e.select key requested = .ok s ↔
      (∀ name ∈ requested, e.Displayable name) ∧ (∀ name, key = some name → e.Sortable name) ∧
        s = ⟨e.kind, if requested.isEmpty then e.defaults else distinct requested, key⟩ := by
  unfold select
  constructor
  · intro h
    split at h
    · cases h
    · rename_i hcolumns
      split at h
      · cases h
      · rename_i hkey
        cases h
        refine ⟨find?_not_displayable_eq_none_iff.mp hcolumns, ?_, rfl⟩
        rintro name rfl
        simpa using hkey
  · rintro ⟨hcolumns, hkey, rfl⟩
    have hfilter : (key.filter fun name => ¬ e.Sortable name) = none := by
      cases key with
      | none => rfl
      | some name => simpa using hkey name rfl
    rw [find?_not_displayable_eq_none_iff.mpr hcolumns, hfilter]

namespace Registry

variable {r : Registry} {q : Request} {p : Plan}

theorem plan_eq_ok_iff :
    r.plan q = .ok p ↔
      (r.entity q.kind).select (q.sortKey.getD (r.entity q.kind).defaultSort) q.columns =
          .ok p.selection ∧
        p.mask = .ofSelection (r.entity q.kind) p.selection := by
  unfold plan
  constructor
  · intro h
    dsimp only at h
    split at h
    · cases h
    · rename_i hselect
      cases h
      exact ⟨hselect, rfl⟩
  · rintro ⟨hselect, hmask⟩
    simp only [hselect, ← hmask]

/-- A key to order by that a plan accepts is one to order by. -/
theorem plan_sortable (h : r.plan q = .ok p) {name : ColumnName}
    (hname : p.selection.sortKey = some name) : (r.entity q.kind).Sortable name := by
  obtain ⟨hselect, -⟩ := plan_eq_ok_iff.mp h
  obtain ⟨-, hkey, hselection⟩ := Entity.select_eq_ok_iff.mp hselect
  apply hkey
  rw [← hname, hselection]

theorem list_of_refused (style : TableStyle) {e : RequestError} (h : r.plan q = .error e)
    (source : Source) : r.list style q source = ⟨[], .error (.request e)⟩ := by
  simp only [list, h]

theorem list_of_plan (style : TableStyle) (h : r.plan q = .ok p) (source : Source) :
    r.list style q source = r.conclude style q p (source q.kind p.mask) := by
  simp only [list, h]

end Registry

/-- A mask has the fields of the columns shown and of the one to order by. -/
theorem Mask.mem_ofSelection {e : Entity} {s : Selection} {path : FieldPath} :
    path ∈ (Mask.ofSelection e s).paths ↔
      ∃ name, (name ∈ s.columns ∨ s.sortKey = some name) ∧
        ∃ c, e.column? name = some c ∧ c.path = path := by
  simp only [ofSelection, ofColumns, mem_distinct, List.mem_map, List.mem_filterMap,
    List.mem_append, Option.mem_toList]
  constructor
  · rintro ⟨c, ⟨name, hname, hc⟩, hpath⟩
    exact ⟨name, hname, c, hc, hpath⟩
  · rintro ⟨name, hname, c, hc, hpath⟩
    exact ⟨c, ⟨name, hname, hc⟩, hpath⟩

end RecordListing
