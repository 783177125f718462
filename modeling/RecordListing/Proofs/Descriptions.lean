import Mathlib
import RecordListing.Description
import RecordListing.Proofs.JsonListing
import RecordListing.Proofs.SelectedColumns
import RecordListing.Proofs.TableLayout

namespace RecordListing

/-!
# What descriptions say

The description of an entity marks every column, and the marks are those of the requests that are
accepted. Both forms have the same marks: the JSON form is read back, and the table shows a block
of lines for each column. What the table calls `sort only` is every column that may not be shown,
also one by which records may not be ordered. The catalogue has no such column.
-/

theorem Registry.exists_overrideAll {overrides : Kind → Option Override} {r : Registry}
    (hr : withOverrides overrides = .ok r) (kind : Kind) :
    ∃ base os, Entity.ofDeclaration (Catalogue.declaration kind) = .ok base ∧
      r.entity kind = base.overrideAll os := by
  obtain ⟨base, hbase, -, hentity⟩ := configured_eq_ok_iff.mp (withOverrides_eq_ok hr kind)
  refine ⟨base, (overrides kind).toList, hbase, hentity.trans ?_⟩
  cases overrides kind <;> rfl

namespace Entity

/-! ## Accepted requests -/

/-- The column may be asked for. -/
def MayShow (e : Entity) (name : ColumnName) : Prop := ∃ s, e.select none [name] = .ok s

/-- The column is shown when none is asked for. -/
def ShowsUnasked (e : Entity) (name : ColumnName) : Prop :=
  ∃ s, e.select none [] = .ok s ∧ name ∈ s.columns

/-- Records may be ordered by the column. -/
def MayOrderBy (e : Entity) (name : ColumnName) : Prop := ∃ s, e.select (some name) [] = .ok s

section Requests

variable {e : Entity} {name : ColumnName}

theorem mayShow_iff : e.MayShow name ↔ e.Displayable name := by
  simp [MayShow, select_eq_ok_iff]

theorem showsUnasked_iff : e.ShowsUnasked name ↔ name ∈ e.defaults := by
  simp [ShowsUnasked, select_eq_ok_iff]

theorem mayOrderBy_iff : e.MayOrderBy name ↔ e.Sortable name := by
  simp [MayOrderBy, select_eq_ok_iff]

end Requests

/-! ## Marks -/

/-- What is said of a column. -/
structure Marks where
  default : Bool
  optional : Bool
  sortable : Bool

/-- The marks say which requests are accepted. -/
structure Marks.Hold (m : Marks) (e : Entity) (name : ColumnName) : Prop where
  shown : m.default = true ∨ m.optional = true ↔ e.MayShow name
  unasked : m.default = true ↔ e.ShowsUnasked name
  not_both : ¬ (m.default = true ∧ m.optional = true)
  sortable : m.sortable = true ↔ e.MayOrderBy name

/-- The marks of a column in the JSON form. -/
structure MarkedMember (c : Column) (m : Marks) (member : Json) : Prop where
  name : member.lookup ["name"] = some (.str c.name.text)
  default : member.lookup ["default"] = some (.bool m.default)
  optional : member.lookup ["optional"] = some (.bool m.optional)
  sortable : member.lookup ["sortable"] = some (.bool m.sortable)

/-- The marks of a column in a row of the table, which has a cell to say whether it is shown and
one to say whether it is to sort by. -/
structure MarkedRow (c : Column) (m : Marks) (row : List String) : Prop where
  name : row[0]? = some c.name.text
  default : row[4]? = some "default" ↔ m.default = true
  optional : row[4]? = some "optional" ↔ m.optional = true
  sortOnly : row[4]? = some "sort only" ↔ m.default = false ∧ m.optional = false
  sortable : row[5]? = some "yes" ↔ m.sortable = true

def marks (e : Entity) (c : Column) : Marks :=
  ⟨c.name ∈ e.defaults, c.name ∈ e.optional, e.Sortable c.name⟩

theorem WellFormed.marks_hold {e : Entity} (h : e.WellFormed) (c : Column) :
    (e.marks c).Hold e c.name where
  shown := by simp [marks, mayShow_iff, Displayable]
  unasked := by simp [marks, showsUnasked_iff]
  not_both := by simpa [marks] using fun hdefault hoptional => h.not_both _ hoptional hdefault
  sortable := by simp [marks, mayOrderBy_iff]

theorem markedMember (e : Entity) (c : Column) :
    MarkedMember c (e.marks c) (e.descriptionMember c) := by
  constructor <;> rfl

theorem WellFormed.markedRow {e : Entity} (h : e.WellFormed) (c : Column) :
    MarkedRow c (e.marks c) (e.descriptionRow c) := by
  have hnot := h.not_both c.name
  refine ⟨rfl, ?_, ?_, ?_, ?_⟩
  all_goals simp only [descriptionRow, marks, role, List.getElem?_cons_succ,
    List.getElem?_cons_zero, Option.some.injEq, decide_eq_true_eq, decide_eq_false_iff_not]
  · split_ifs <;> simp_all
  · split_ifs <;> simp_all
  · split_ifs <;> simp_all
  · split_ifs <;> simp_all

/-! ## The JSON form -/

theorem reads_descriptionMember (e : Entity) (c : Column) {d depth : Nat} :
    Json.Reads (Json.value (d + 1)) ((e.descriptionMember c).indented depth)
      (e.descriptionMember c) := by
  apply Json.reads_indented_obj
  · show ["default", "kind", "label", "name", "optional", "path", "sortable"].Pairwise (· < ·)
    decide
  · simp only [List.forall_mem_cons]
    exact ⟨Json.reads_bool _, Json.reads_str _, Json.reads_str _, Json.reads_str _,
      Json.reads_bool _, Json.reads_str _, Json.reads_bool _, fun _ h => nomatch h⟩

theorem ofText_describeJson (e : Entity) :
    Json.ofText e.describeJson.toIndentedText = .ok e.describeJson := by
  apply Json.ofText_of_reads
  apply Json.reads_indented_obj
  · show ["columns", "default_sort", "entity"].Pairwise (· < ·)
    decide
  · simp only [List.forall_mem_cons]
    refine ⟨?_, ?_, Json.reads_str _, fun _ h => nomatch h⟩
    · apply Json.reads_indented_arr
      intro v hv
      obtain ⟨c, -, rfl⟩ := List.mem_map.mp hv
      exact ⟨Json.opens_obj _, e.reads_descriptionMember c⟩
    · cases e.defaultSort with
      | none => exact Json.reads_null
      | some name => exact Json.reads_str _

/-! ## Both forms -/

/-- Every column of the catalogue is in one of the lists. -/
theorem mayShow_or_mayOrderBy {overrides : Kind → Option Override} {r : Registry}
    (hr : Registry.withOverrides overrides = .ok r) (kind : Kind) {c : Column}
    (hc : c ∈ (r.entity kind).columns) :
    (r.entity kind).MayShow c.name ∨ (r.entity kind).MayOrderBy c.name := by
  obtain ⟨base, os, hbase, hentity⟩ := Registry.exists_overrideAll hr kind
  rw [hentity] at hc ⊢
  obtain ⟨-, hcolumns, hsortable⟩ := sameFrame_overrideAll base os
  have hbuilt := builtFrom_of_ofDeclaration hbase
  rw [hcolumns] at hc
  obtain ⟨declared, hdeclared, hgives⟩ := exists_declared_of_mem hbuilt.gives.columns hc
  have hlisted : ∀ kind, ∀ c ∈ (Catalogue.declaration kind).columns,
      c.name ∈ (Catalogue.declaration kind).defaults ∨
        c.name ∈ (Catalogue.declaration kind).optional ∨
          c.name ∈ (Catalogue.declaration kind).sortable := by
    intro kind
    cases kind <;> decide
  rw [mayShow_iff, mayOrderBy_iff, displayable_overrideAll, hbuilt.displayable_iff, Sortable,
    hsortable, hbuilt.gives.sortable, hgives.name, or_assoc]
  exact (hlisted kind declared hdeclared).imp List.mem_map_of_mem
    (Or.imp List.mem_map_of_mem List.mem_map_of_mem)

/-- The cell of a column in no list reads as if records could be ordered by it. -/
theorem WellFormed.sortOnly_iff {e : Entity} (h : e.WellFormed) (c : Column) :
    ((e.descriptionRow c)[4]? = some "sort only" ↔
        ¬ e.MayShow c.name ∧ e.MayOrderBy c.name) ↔
      e.MayShow c.name ∨ e.MayOrderBy c.name := by
  have hhold := h.marks_hold c
  have hcell : (e.descriptionRow c)[4]? = some "sort only" ↔ ¬ e.MayShow c.name := by
    rw [(h.markedRow c).sortOnly, ← hhold.shown, not_or, Bool.not_eq_true, Bool.not_eq_true]
  rw [hcell]
  tauto

/-- Both forms of a description mark every column, and the marks hold. The table has the header
and a row for each column. Its `sort only` says that a column may not be shown but ordered by,
unless neither is so, and that is the case of no column of the catalogue, however its default
columns are replaced. -/
theorem description_holds {d : Declaration} {e₀ : Entity} (h : ofDeclaration d = .ok e₀)
    (os : List Override) :
    let e := e₀.overrideAll os
    (∃ v members, Json.ofText e.describeJson.toIndentedText = .ok v ∧
      v.lookup ["columns"] = some (.arr members) ∧
      List.Forall₂ (fun c member => ∃ m, Marks.Hold m e c.name ∧ MarkedMember c m member)
        e.columns members) ∧
    (∃ table sort rows ws blocks, e.describe = table ++ "\n\nDefault sort: " ++ sort ∧
      Table.contentLines .utf8 table = blocks.flatten ∧ ws.length = 6 ∧
      List.Forall₂ (Table.ShowsRow (Table.borders .utf8) ws)
        (["Column", "Label", "Path", "Kind", "Shown", "Sortable"] :: rows) blocks ∧
      List.Forall₂ (fun c row => (∃ m, Marks.Hold m e c.name ∧ MarkedRow c m row) ∧
          ((row[4]? = some "sort only" ↔ ¬ e.MayShow c.name ∧ e.MayOrderBy c.name) ↔
            e.MayShow c.name ∨ e.MayOrderBy c.name))
        e.columns rows) ∧
    ∀ overrides r, Registry.withOverrides overrides = .ok r →
      ∀ kind, ∀ c ∈ (r.entity kind).columns,
        (r.entity kind).MayShow c.name ∨ (r.entity kind).MayOrderBy c.name := by
  intro e
  have hformed : e.WellFormed := (builtFrom_of_ofDeclaration h).wellFormed.overrideAll os
  refine ⟨⟨_, e.columns.map e.descriptionMember, e.ofText_describeJson, rfl, ?_⟩, ?_,
    fun overrides r hr kind c hc => mayShow_or_mayOrderBy hr kind hc⟩
  · rw [List.forall₂_map_right_iff]
    apply List.forall₂_same.mpr
    intro c _
    exact ⟨e.marks c, hformed.marks_hold c, e.markedMember c⟩
  · have hrows : ∀ row ∈ e.columns.map e.descriptionRow, row.length = 6 := by
      intro row hrow
      obtain ⟨c, -, rfl⟩ := List.mem_map.mp hrow
      rfl
    obtain ⟨ws, blocks, hlength, hcontent, hshows, -⟩ := Table.render_shows .utf8
      (List.cons_ne_nil "Column" ["Label", "Path", "Kind", "Shown", "Sortable"]) hrows
    refine ⟨_, _, e.columns.map e.descriptionRow, ws, blocks, rfl, hcontent, hlength, hshows, ?_⟩
    rw [List.forall₂_map_right_iff]
    apply List.forall₂_same.mpr
    intro c _
    exact ⟨⟨e.marks c, hformed.marks_hold c, hformed.markedRow c⟩, hformed.sortOnly_iff c⟩

/-- Volumes that are shown by their notes alone. -/
theorem description_holds_volumes :
    ∃ e₀, ofDeclaration Catalogue.volume = .ok e₀ ∧
      ∃ v members,
        Json.ofText (e₀.overrideAll [⟨some [.ofText "notes"], none⟩]).describeJson.toIndentedText =
          .ok v ∧
        v.lookup ["columns"] = some (.arr members) ∧
        members.length = Catalogue.volume.columns.length := by
  obtain ⟨e₀, he₀⟩ := exists_ofDeclaration_catalogue .volume
  obtain ⟨⟨v, members, hv, hmembers, hmarked⟩, -, -⟩ :=
    description_holds he₀ [⟨some [.ofText "notes"], none⟩]
  refine ⟨e₀, he₀, v, members, hv, hmembers, ?_⟩
  obtain ⟨-, hcolumns, -⟩ := sameFrame_overrideAll e₀ [⟨some [.ofText "notes"], none⟩]
  rw [← hmarked.length_eq, hcolumns]
  exact (builtFrom_of_ofDeclaration he₀).gives.columns.length_eq.symm

/-- A column that is registered and in no list. -/
theorem sortOnly_of_unlisted :
    ¬ ∀ d e, ofDeclaration d = .ok e → ∀ c ∈ e.columns,
      ((e.descriptionRow c)[4]? = some "sort only" ↔
        ¬ e.MayShow c.name ∧ e.MayOrderBy c.name) := by
  intro hagrees
  let email : ColumnDeclaration := ⟨"email", "email", .text, "Email", .raw⟩
  let d : Declaration :=
    ⟨.user, [⟨"id", "id", .integer, "ID", .raw⟩, email], ["id"], [], ["id"], none⟩
  obtain ⟨e, he, c, hc, hcell, hunsortable⟩ : ∃ e, ofDeclaration d = .ok e ∧
      ∃ c ∈ e.columns, (e.descriptionRow c)[4]? = some "sort only" ∧ ¬ e.Sortable c.name :=
    exists_ok_of_any (by decide)
  obtain ⟨-, hsort⟩ := (hagrees d e he c hc).mp hcell
  exact hunsortable (mayOrderBy_iff.mp hsort)

end Entity

end RecordListing
