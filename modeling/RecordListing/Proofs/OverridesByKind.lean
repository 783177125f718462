import Mathlib.Tactic.Choose
import RecordListing.Proofs.Declarations
import RecordListing.Proofs.Sorting

namespace RecordListing.Registry

/-!
# Overrides by kind

An override is for one kind. The registry is made if the catalogue's entity of every kind accepts
the override of its kind, and each entity is then changed by that override alone. Else the first
kind that refuses its override is reported. By which columns records may be ordered, where the
values of these are and how they compare is as the catalogue has it, whatever is overridden.
-/

/-- The kind has an override that its entity of the catalogue does not accept. -/
def Refuses (builtin : Kind → Entity) (overrides : Kind → Option Override) (kind : Kind)
    (err : EntityError) : Prop :=
  ∃ o, overrides kind = some o ∧ ((builtin kind).override o).error = some err

section Builtin

variable {builtin : Kind → Entity} {overrides : Kind → Option Override}
  (hbuiltin : ∀ kind, Entity.ofDeclaration (Catalogue.declaration kind) = .ok (builtin kind))
include hbuiltin

theorem configured_eq_error_iff (kind : Kind) (err : EntityError) :
    configured kind (overrides kind) = .error err ↔ Refuses builtin overrides kind err := by
  rw [configured_of_declared (hbuiltin kind), Refuses]
  cases overrides kind with
  | none => simp
  | some o => simp [Attempt.toExcept_eq_error_iff]

theorem withOverrides_eq_error_iff_refuses {err : EntityError} :
    withOverrides overrides = .error err ↔
      ∃ kind, IsFirst (fun kind => ∃ err, Refuses builtin overrides kind err) Kind.all kind ∧
        Refuses builtin overrides kind err := by
  simp only [withOverrides_eq_error_iff, configured_eq_error_iff hbuiltin]

theorem exists_withOverrides_iff :
    (∃ r, withOverrides overrides = .ok r) ↔
      ∀ kind o, overrides kind = some o → ((builtin kind).override o).error = none := by
  constructor
  · rintro ⟨r, hr⟩ kind o ho
    have hentity := withOverrides_eq_ok hr kind
    rw [configured_of_declared (hbuiltin kind), ho, Option.elim_some] at hentity
    exact (Attempt.toExcept_eq_ok_iff.mp hentity).1
  · intro haccepted
    -- An error would be that of a kind with an override.
    cases hr : withOverrides overrides with
    | ok r => exact ⟨r, rfl⟩
    | error err =>
        obtain ⟨kind, -, o, ho, herr⟩ := (withOverrides_eq_error_iff_refuses hbuiltin).mp hr
        cases (haccepted kind o ho).symm.trans herr

variable {r : Registry} (hr : withOverrides overrides = .ok r) (kind : Kind)
include hr

theorem entity_eq : r.entity kind =
    (overrides kind).elim (builtin kind) fun o => ((builtin kind).override o).entity := by
  obtain ⟨base, hbase, -, hentity⟩ := configured_eq_ok_iff.mp (withOverrides_eq_ok hr kind)
  cases hbase.symm.trans (hbuiltin kind)
  exact hentity

theorem sameFrame_entity : Entity.SameFrame (builtin kind) (r.entity kind) := by
  obtain ⟨base, hbase, hframe⟩ := exists_sameFrame (withOverrides_eq_ok hr kind)
  cases hbase.symm.trans (hbuiltin kind)
  exact hframe

theorem column?_entity (name : ColumnName) :
    (r.entity kind).column? name = (builtin kind).column? name := by
  obtain ⟨-, hcolumns, -⟩ := sameFrame_entity hbuiltin hr kind
  rw [Entity.column?, Entity.column?, hcolumns]

theorem sortable_entity (name : ColumnName) :
    (r.entity kind).Sortable name ↔ (builtin kind).Sortable name := by
  obtain ⟨-, -, hsortable⟩ := sameFrame_entity hbuiltin hr kind
  rw [Entity.Sortable, Entity.Sortable, hsortable]

/-- The sorter has the registered column of the kind, and orders the records by it. -/
theorem exists_column_of_sortable {name : ColumnName} (hname : (builtin kind).Sortable name) :
    ∃ c, (builtin kind).column? name = some c ∧
      (Sorter.ofRegistry r).find? kind name = some ⟨kind, name, c.path, c.kind⟩ ∧
      ∀ records, (Sorter.ofRegistry r).sort kind (some name) records =
        stableSort (fun a b => c.compare a b == .lt) records := by
  rw [← sortable_entity hbuiltin hr] at hname
  have hregistered := sortableRegistered_entity hr kind name hname
  obtain ⟨c, hc⟩ := Option.isSome_iff_exists.mp (Entity.column?_isSome hregistered)
  refine ⟨c, (column?_entity hbuiltin hr kind name).symm.trans hc, ?_, ?_⟩
  · exact (Sorter.find?_eq_some_iff hr).mpr ⟨hname, c, hc, rfl⟩
  · exact Sorter.sort_eq_stableSort hr ((Sorter.supports_iff hr).mpr hname) hc

end Builtin

/-- The registry is made just if every override is accepted by the catalogue's entity of its own
kind. If not, the error of the first kind that refuses its override is reported. An entity of the
registry is the catalogue's under the override of its kind, if there is one. The sorter supports
just the columns by which the catalogue allows to order a kind, and orders its records by the
registered paths and comparisons of these. -/
theorem withOverrides_byKind (overrides : Kind → Option Override) :
    ∃ builtin : Kind → Entity,
      (∀ kind, Entity.ofDeclaration (Catalogue.declaration kind) = .ok (builtin kind)) ∧
      ((∃ r, withOverrides overrides = .ok r) ↔
        ∀ kind o, overrides kind = some o → ((builtin kind).override o).error = none) ∧
      (∀ err, withOverrides overrides = .error err ↔
        ∃ kind, IsFirst (fun kind => ∃ err, Refuses builtin overrides kind err) Kind.all kind ∧
          Refuses builtin overrides kind err) ∧
      ∀ r, withOverrides overrides = .ok r → ∀ kind,
        (r.entity kind =
          (overrides kind).elim (builtin kind) fun o => ((builtin kind).override o).entity) ∧
        ∀ name,
          ((Sorter.ofRegistry r).supports kind name = true ↔ (builtin kind).Sortable name) ∧
          ((builtin kind).Sortable name →
            ∃ c, (builtin kind).column? name = some c ∧
              (Sorter.ofRegistry r).find? kind name = some ⟨kind, name, c.path, c.kind⟩ ∧
              ∀ records, (Sorter.ofRegistry r).sort kind (some name) records =
                stableSort (fun a b => c.compare a b == .lt) records) := by
  choose builtin hbuiltin using Entity.exists_ofDeclaration_catalogue
  refine ⟨builtin, hbuiltin, exists_withOverrides_iff hbuiltin,
    fun err => withOverrides_eq_error_iff_refuses hbuiltin, fun r hr kind => ⟨?_, fun name => ?_⟩⟩
  · exact entity_eq hbuiltin hr kind
  · refine ⟨?_, exists_column_of_sortable hbuiltin hr kind⟩
    rw [Sorter.supports_iff hr, sortable_entity hbuiltin hr]

/-- Volumes by their notes alone, in the order of where they are mounted, which is not shown. -/
def mountedVolumes : Kind → Option Override
  | .volume => some { defaultColumns := some [.ofText "notes"], defaultSort := some "mount_addr" }
  | _ => none

/-- Subnets without columns, and users in an order that they cannot have. -/
def refusedTwice : Kind → Option Override
  | .subnet => some { defaultColumns := some [] }
  | .user => some { defaultSort := some "status" }
  | _ => none

/-- Overridden volumes leave snapshots as they are, and of two kinds that refuse their override
the first is reported. -/
theorem withOverrides_byKind_volumes :
    (∃ r, withOverrides mountedVolumes = .ok r ∧
      (r.entity .volume).defaults = [.ofText "notes"] ∧
      Entity.ofDeclaration Catalogue.snapshot = .ok (r.entity .snapshot) ∧
      (Sorter.ofRegistry r).supports .volume (.ofText "mount_addr") = true) ∧
    withOverrides refusedTwice = .error ⟨.subnet, .noDefaults⟩ := by
  constructor
  · obtain ⟨builtin, hbuiltin, hmade, -, hentities⟩ := withOverrides_byKind mountedVolumes
    obtain ⟨e, he, haccepted, hdefaults, hsortable⟩ :
        ∃ e, Entity.ofDeclaration Catalogue.volume = .ok e ∧
          (e.override ⟨some [.ofText "notes"], some "mount_addr"⟩).error = none ∧
          (e.override ⟨some [.ofText "notes"], some "mount_addr"⟩).entity.defaults =
            [.ofText "notes"] ∧ e.Sortable (.ofText "mount_addr") :=
      exists_ok_of_any (by decide)
    obtain rfl : e = builtin .volume := Except.ok.inj (he.symm.trans (hbuiltin .volume))
    have hall : ∀ kind o, mountedVolumes kind = some o →
        ((builtin kind).override o).error = none := by
      intro kind o ho
      cases kind with
      | volume =>
          cases ho
          exact haccepted
      | _ => cases ho
    obtain ⟨r, hr⟩ := hmade.mpr hall
    obtain ⟨hvolume, hsorter⟩ := hentities r hr .volume
    obtain ⟨hsnapshot, -⟩ := hentities r hr .snapshot
    refine ⟨r, hr, ?_, ?_, (hsorter _).1.mpr hsortable⟩
    · rw [hvolume]
      exact hdefaults
    · rw [hsnapshot]
      exact hbuiltin .snapshot
  · obtain ⟨builtin, hbuiltin, -, herror, -⟩ := withOverrides_byKind refusedTwice
    have hrefuses : Refuses builtin refusedTwice .subnet ⟨.subnet, .noDefaults⟩ := by
      refine ⟨{ defaultColumns := some [] }, rfl, ?_⟩
      obtain ⟨hkind, -⟩ := Entity.ofDeclaration_eq_ok (hbuiltin .subnet)
      have hempty : ((builtin .subnet).override { defaultColumns := some [] }).error =
          some ⟨(builtin .subnet).kind, .noDefaults⟩ := rfl
      rw [hempty, hkind]
      rfl
    refine (herror _).mpr ⟨.subnet, ⟨[.volume, .snapshot, .accessHost],
      [.hardware, .user, .virtualServer, .hostGuest], rfl, ⟨_, hrefuses⟩, ?_⟩, hrefuses⟩
    rintro kind hkind ⟨err, o, ho, -⟩
    simp only [List.mem_cons, List.not_mem_nil, or_false] at hkind
    rcases hkind with rfl | rfl | rfl <;> cases ho

end RecordListing.Registry
