import RecordListing.Proofs.Overriding
import RecordListing.Settings.Basic

namespace RecordListing

/-!
# Overrides in settings

The registry of settings has for every kind the entity of the catalogue, under the last
override that names the kind. A kind has several names, and what an earlier entry asks for
under another of them counts only where the last one comes to the same.
-/

/-- The default columns and the default order are as an override asks for. -/
def Entity.Follows (e : Entity) (o : Override) : Prop :=
  (∀ wanted, o.defaultColumns = some wanted → e.defaults = distinct wanted) ∧
    ∀ text, o.defaultSort = some text → e.defaultSort = SortKey.ofText text

theorem Entity.follows_overridden (e : Entity) (o : Override) : (e.overridden o).Follows o := by
  constructor
  · intro wanted hwanted
    rw [overridden_defaults, hwanted, Option.elim_some]
  · intro text htext
    rw [overridden_defaultSort, htext, Option.elim_some]

theorem Entity.overridden_follows_iff (e : Entity) (last o : Override) :
    (e.overridden last).Follows o ↔
      (∀ wanted, o.defaultColumns = some wanted →
        last.defaultColumns.elim e.defaults distinct = distinct wanted) ∧
      ∀ text, o.defaultSort = some text →
        last.defaultSort.elim e.defaultSort SortKey.ofText = SortKey.ofText text :=
  Iff.rfl

namespace Registry

theorem configured_some_eq_ok {kind : Kind} {o : Override} {e : Entity}
    (h : configured kind (some o) = .ok e) :
    ∃ base, Entity.ofDeclaration (Catalogue.declaration kind) = .ok base ∧
      e = base.overridden o := by
  obtain ⟨base, hbase, haccepted, hentity⟩ := configured_eq_ok_iff.mp h
  obtain ⟨hcolumns, hsort⟩ := Entity.override_error_eq_none_iff.mp (haccepted o rfl)
  refine ⟨base, hbase, ?_⟩
  rw [hentity, Option.elim_some, Entity.override_of_accepted hcolumns hsort]

end Registry

namespace Settings

variable {s : Settings} {kind : Kind} {o : Override} {r : Registry}

/-- The override of a kind is that of the last entry that names the kind. -/
theorem override?_eq_some_iff :
    s.override? kind = some o ↔
      ∃ before name after, s.entities = before ++ (name, o) :: after ∧
        Kind.ofText? name = some kind ∧ ∀ entry ∈ after, Kind.ofText? entry.1 ≠ some kind := by
  simp only [override?, Option.map_eq_some_iff, List.find?_eq_some_iff_append]
  constructor
  · rintro ⟨⟨name, o'⟩, ⟨hname, after, before, hentities, hafter⟩, rfl⟩
    refine ⟨before.reverse, name, after.reverse, ?_, by simpa using hname, ?_⟩
    · simpa using congrArg List.reverse hentities
    · intro entry hentry
      simpa using hafter entry (List.mem_reverse.mp hentry)
  · rintro ⟨before, name, after, hentities, hname, hafter⟩
    refine ⟨(name, o), ⟨by simpa using hname, after.reverse, before.reverse, ?_, ?_⟩, rfl⟩
    · simp [hentities]
    · intro entry hentry
      simpa using hafter entry (List.mem_reverse.mp hentry)

theorem exists_override? {name : String} (hentry : (name, o) ∈ s.entities)
    (hname : Kind.ofText? name = some kind) : ∃ last, s.override? kind = some last := by
  rw [← Option.isSome_iff_exists, override?, Option.isSome_map, List.find?_isSome]
  exact ⟨(name, o), List.mem_reverse.mpr hentry, by simpa using hname⟩

theorem registry_eq_ok_iff :
    s.registry = .ok r ↔
      (∀ entry ∈ s.entities, (Kind.ofText? entry.1).isSome) ∧
        Registry.withOverrides s.override? = .ok r := by
  unfold registry
  cases hunknown : s.entities.find? fun entry => (Kind.ofText? entry.1).isNone with
  | some entry =>
      have hnone : Kind.ofText? entry.1 = none := by simpa using List.find?_some hunknown
      have hmem : entry ∈ s.entities := List.mem_of_find?_eq_some hunknown
      constructor
      · intro h
        cases h
      · rintro ⟨hknown, -⟩
        simpa [hnone] using hknown entry hmem
  | none =>
      have hknown : ∀ entry ∈ s.entities, (Kind.ofText? entry.1).isSome := by
        intro entry hentry
        simpa [Option.isSome_iff_ne_none] using List.find?_eq_none.mp hunknown entry hentry
      cases Registry.withOverrides s.override? with
      | error err => simp
      | ok r' => simpa using fun _ => hknown

/-- In a registry the last override of a kind is followed. What another entry for the kind asks
for is followed exactly where the last one asks for the same, or leaves open what the
catalogue has the same. So every entry is that no other one shares the kind of. -/
theorem registry_follows_iff (h : s.registry = .ok r) {name : String}
    (hentry : (name, o) ∈ s.entities) :
    ∃ kind, Kind.ofText? name = some kind ∧
      ∃ base, Entity.ofDeclaration (Catalogue.declaration kind) = .ok base ∧
      ∃ before name' last after, s.entities = before ++ (name', last) :: after ∧
        Kind.ofText? name' = some kind ∧
        (∀ entry ∈ after, Kind.ofText? entry.1 ≠ some kind) ∧
        (r.entity kind).Follows last ∧
        ((r.entity kind).Follows o ↔
          (∀ wanted, o.defaultColumns = some wanted →
            last.defaultColumns.elim base.defaults distinct = distinct wanted) ∧
          ∀ text, o.defaultSort = some text →
            last.defaultSort.elim base.defaultSort SortKey.ofText = SortKey.ofText text) ∧
        ((∀ entry ∈ s.entities, Kind.ofText? entry.1 = some kind → entry = (name, o)) →
          (r.entity kind).Follows o) := by
  obtain ⟨hknown, hr⟩ := registry_eq_ok_iff.mp h
  obtain ⟨kind, hname⟩ := Option.isSome_iff_exists.mp (hknown _ hentry)
  obtain ⟨last, hlast⟩ := exists_override? hentry hname
  obtain ⟨before, name', after, hentities, hname', hafter⟩ := override?_eq_some_iff.mp hlast
  have hconfigured := Registry.withOverrides_eq_ok hr kind
  rw [hlast] at hconfigured
  obtain ⟨base, hbase, hentity⟩ := Registry.configured_some_eq_ok hconfigured
  have hfollows : (r.entity kind).Follows last := hentity ▸ base.follows_overridden last
  refine ⟨kind, hname, base, hbase, before, name', last, after, hentities, hname', hafter,
    hfollows, ?_, ?_⟩
  · rw [hentity, Entity.overridden_follows_iff]
  · intro honly
    have hmem : (name', last) ∈ s.entities := by simp [hentities]
    obtain ⟨-, rfl⟩ := Prod.mk.inj (honly _ hmem hname')
    exact hfollows

/-! ## Two names of one kind -/

/-- The default columns of access hosts under one name, their default order under another. -/
def accessHostsTwice : Settings where
  entities := [
    ("access-host", { defaultColumns := some [.ofText "name"] }),
    ("access_host", { defaultSort := some "id" })]

theorem exists_registry_accessHostsTwice :
    ∃ r, accessHostsTwice.registry = .ok r ∧
      (r.entity .accessHost).defaults ≠ distinct [.ofText "name"] := by
  have hothers : ∀ kind ∈ Kind.all, kind ≠ .accessHost →
      accessHostsTwice.override? kind = none := by
    decide
  obtain ⟨e, he, hdefaults⟩ : ∃ e,
      Registry.configured .accessHost (accessHostsTwice.override? .accessHost) = .ok e ∧
        e.defaults ≠ distinct [.ofText "name"] :=
    exists_ok_of_any (by decide)
  obtain ⟨r, hr, hentity⟩ := Registry.exists_withOverrides_single he fun kind hkind =>
    hothers kind (Kind.mem_all kind) hkind
  exact ⟨r, registry_eq_ok_iff.mpr ⟨by decide, hr⟩, hentity ▸ hdefaults⟩

/-- Of two entries for access hosts the later one is followed. -/
theorem registry_follows_later_accessHosts :
    ∃ r, accessHostsTwice.registry = .ok r ∧
      ("access-host", { defaultColumns := some [.ofText "name"] }) ∈ accessHostsTwice.entities ∧
      (r.entity .accessHost).Follows { defaultSort := some "id" } := by
  obtain ⟨r, hr, -⟩ := exists_registry_accessHostsTwice
  have hentry : ("access-host", { defaultColumns := some [.ofText "name"] }) ∈
      accessHostsTwice.entities := List.mem_cons_self
  have hfirst : Kind.ofText? "access-host" = some .accessHost := by decide +kernel
  have hsecond : Kind.ofText? "access_host" = some .accessHost := by decide +kernel
  obtain ⟨kind, hkind, -, -, before, name, last, after, hentities, -, hafter, hfollows, -⟩ :=
    registry_follows_iff hr hentry
  cases hfirst.symm.trans hkind
  refine ⟨r, hr, hentry, ?_⟩
  -- The last entry for the kind is not the first of the two, and there is no third.
  rcases before with _ | ⟨x, _ | ⟨y, before⟩⟩
  · simp only [accessHostsTwice, List.nil_append, List.cons.injEq] at hentities
    obtain ⟨-, rfl⟩ := hentities
    have hlater := hafter ("access_host", { defaultSort := some "id" }) List.mem_cons_self
    exact absurd hsecond hlater
  · simp only [accessHostsTwice, List.cons_append, List.nil_append, List.cons.injEq,
      Prod.mk.injEq] at hentities
    obtain ⟨-, ⟨-, rfl⟩, -⟩ := hentities
    exact hfollows
  · simp [accessHostsTwice] at hentities

/-- The earlier of two entries for access hosts is lost. -/
theorem registry_loses_override :
    ¬ ∀ (s : Settings) (r : Registry), s.registry = .ok r → ∀ entry ∈ s.entities,
      ∀ kind, Kind.ofText? entry.1 = some kind → (r.entity kind).Follows entry.2 := by
  intro hkept
  obtain ⟨r, hr, hdefaults⟩ := exists_registry_accessHostsTwice
  have hfollows := hkept accessHostsTwice r hr _ List.mem_cons_self .accessHost (by decide +kernel)
  exact hdefaults (hfollows.1 _ rfl)

end Settings

end RecordListing
