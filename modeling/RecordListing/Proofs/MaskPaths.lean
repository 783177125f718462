import RecordListing.Proofs.SelectedColumns

namespace RecordListing

/-!
# Paths of masks

The mask of a selection has the path of every selected column and of the one to order by, each
once and where it is first named. All of these columns are registered. No comma is part of a
path, so the text of a mask is read back path by path.
-/

namespace Entity

/-- The columns registered under some names, one for each. -/
def Registers (e : Entity) : List ColumnName → List Column → Prop :=
  List.Forall₂ fun name c => e.column? name = some c

theorem Registers.filterMap {e : Entity} {names : List ColumnName} {columns : List Column}
    (h : e.Registers names columns) : names.filterMap e.column? = columns := by
  induction h with
  | nil => rfl
  | cons hc _ ih => rw [List.filterMap_cons_some hc, ih]

theorem exists_registers {e : Entity} {names : List ColumnName}
    (h : ∀ name ∈ names, (e.column? name).isSome) : ∃ columns, e.Registers names columns := by
  induction names with
  | nil => exact ⟨[], .nil⟩
  | cons name names ih =>
      rw [List.forall_mem_cons] at h
      obtain ⟨c, hc⟩ := Option.isSome_iff_exists.mp h.1
      obtain ⟨columns, hcolumns⟩ := ih h.2
      exact ⟨c :: columns, .cons hc hcolumns⟩

variable {e : Entity} {key : SortKey} {requested : List ColumnName} {s : Selection}

theorem WellFormed.columns_ne_nil (h : e.WellFormed) (hs : e.select key requested = .ok s) :
    s.columns ≠ [] := by
  obtain ⟨hnone, hsome⟩ := select_columns hs
  by_cases hrequested : requested = []
  · rw [hnone hrequested]
    exact h.defaults_ne_nil
  · rwa [hsome hrequested, ne_eq, distinct_eq_nil]

/-- What a request selects is registered, the column to order by too. -/
theorem WellFormed.exists_registers (h : e.WellFormed) (hs : e.select key requested = .ok s) :
    ∃ columns, e.Registers (s.columns ++ s.sortKey.toList) columns := by
  apply Entity.exists_registers
  intro name hname
  apply column?_isSome
  obtain ⟨hshown, hsortable, rfl⟩ := select_eq_ok_iff.mp hs
  rcases List.mem_append.mp hname with hname | hname
  · apply h.displayable_registered
    split at hname
    · exact .inl hname
    · exact hshown name (mem_distinct.mp hname)
  · exact h.sortable_registered name (hsortable name (Option.mem_toList.mp hname))

end Entity

namespace Mask

theorem comma_not_mem_toText (path : FieldPath) : ',' ∉ path.toText.toList := by
  intro hcomma
  exact absurd (FieldPath.isAlphanum_of_mem_toText ',' hcomma) (by decide)

/-- The text of a mask is cut at its commas into the texts of its paths. The text of no paths
would be cut into an empty one. -/
theorem parts_toText {m : Mask} (h : m.paths ≠ []) :
    (Text.parts ',' m.toText).map FieldPath.ofText? = m.paths.map some := by
  have hcomma : ∀ text ∈ m.paths.map (·.toText), ',' ∉ text.toList :=
    List.forall_mem_map.mpr fun path _ => comma_not_mem_toText path
  rw [toText, Text.parts_join rfl (by simpa using h) hcomma, List.map_map]
  exact List.map_congr_left fun path _ => FieldPath.ofText?_eq_some_iff.mpr rfl

theorem paths_ofSelection {e : Entity} {s : Selection} {columns : List Column}
    (h : e.Registers (s.columns ++ s.sortKey.toList) columns) :
    (ofSelection e s).paths = distinct (columns.map (·.path)) := by
  rw [ofSelection, ofColumns, h.filterMap]

/-- Whatever overrides are tried on an entity that a declaration gives, every column of an
accepted request is registered, and so is the one to order by. The mask has just their paths,
each once and in the order in which these columns, one after the other, first name them, and its
text is cut at commas into texts that are read as these paths. -/
theorem ofSelection_exact {d : Declaration} {e₀ : Entity} (h : Entity.ofDeclaration d = .ok e₀)
    (os : List Override) {key : SortKey} {requested : List ColumnName} {s : Selection}
    (hs : (e₀.overrideAll os).select key requested = .ok s) :
    let e := e₀.overrideAll os
    let m := ofSelection e s
    ∃ columns, e.Registers (s.columns ++ s.sortKey.toList) columns ∧
      m.paths.Nodup ∧
      (∀ path, path ∈ m.paths ↔ ∃ name, (name ∈ s.columns ∨ s.sortKey = some name) ∧
        ∃ c, e.column? name = some c ∧ c.path = path) ∧
      (m.paths.Pairwise fun a b =>
        (columns.map (·.path)).idxOf a < (columns.map (·.path)).idxOf b) ∧
      (Text.parts ',' m.toText).map FieldPath.ofText? = m.paths.map some := by
  intro e m
  have hformed : e.WellFormed := (Entity.builtFrom_of_ofDeclaration h).wellFormed.overrideAll os
  obtain ⟨columns, hcolumns⟩ := hformed.exists_registers hs
  have hpaths : m.paths = distinct (columns.map (·.path)) := paths_ofSelection hcolumns
  have hne : m.paths ≠ [] := by
    obtain ⟨name, names, hnames⟩ := List.exists_cons_of_ne_nil (hformed.columns_ne_nil hs)
    rw [hnames] at hcolumns
    obtain ⟨c, cs, -, -, rfl⟩ := List.forall₂_cons_left_iff.mp hcolumns
    simp [hpaths]
  refine ⟨columns, hcolumns, ?_, fun path => mem_ofSelection, ?_, parts_toText hne⟩
  · rw [hpaths]
    exact nodup_distinct _
  · rw [hpaths]
    exact pairwise_idxOf_distinct _

/-- A declaration of two columns that share a path, shown by default, and a third to sort by. -/
def sharedPath : Declaration where
  kind := .user
  columns := [⟨"login", "user.name", .text, "Login", .raw⟩,
    ⟨"name", "user.name", .text, "Name", .lowercase⟩, ⟨"id", "user.id", .integer, "ID", .raw⟩]
  defaults := ["login", "name"]
  optional := []
  sortable := ["ID"]
  defaultSort := none

/-- Of two columns with one path and the one to order by, which is not shown, the mask has two
paths. -/
theorem ofSelection_exact_shared :
    let os : List Override := [⟨some [.ofText "name", .ofText "login"], some "login"⟩]
    let s : Selection := ⟨.user, [.ofText "name", .ofText "login"], some (.ofText "id")⟩
    ∃ e₀, Entity.ofDeclaration sharedPath = .ok e₀ ∧
      (e₀.overrideAll os).select (some (.ofText "iD")) [] = .ok s ∧
      (ofSelection (e₀.overrideAll os) s).toText = "user.name,user.id" ∧
      (ofSelection (e₀.overrideAll os) s).paths.Nodup ∧
      (Text.parts ',' "user.name,user.id").map FieldPath.ofText? =
        (ofSelection (e₀.overrideAll os) s).paths.map some := by
  intro os s
  obtain ⟨e₀, he₀, hselect, htext⟩ : ∃ e₀, Entity.ofDeclaration sharedPath = .ok e₀ ∧
      (e₀.overrideAll os).select (some (.ofText "iD")) [] = .ok s ∧
      (ofSelection (e₀.overrideAll os) s).toText = "user.name,user.id" :=
    exists_ok_of_any (by decide)
  obtain ⟨_, -, hnodup, -, -, hparts⟩ := ofSelection_exact he₀ os hselect
  exact ⟨e₀, he₀, hselect, htext, hnodup, htext ▸ hparts⟩

end Mask

end RecordListing
