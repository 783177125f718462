import Mathlib.Data.List.Forall2
import Mathlib.Data.List.Nodup
import RecordListing.Entity

namespace RecordListing

/-!
# Registration

When the columns of a declaration are registered and names are found among them, and which
defect is reported when not: the first in the order of the list.
-/

theorem bind_eq_ok_iff {ε α β : Type} {step : Except ε α} {next : α → Except ε β} {b : β} :
    (step >>= next) = .ok b ↔ ∃ a, step = .ok a ∧ next a = .ok b := by
  cases step <;> simp [bind, Except.bind]

theorem bind_eq_error_iff {ε α β : Type} {step : Except ε α} {next : α → Except ε β} {err : ε} :
    (step >>= next) = .error err ↔
      step = .error err ∨ ∃ a, step = .ok a ∧ next a = .error err := by
  cases step <;> simp [bind, Except.bind]

/-- The first entry of a list with a property. -/
def IsFirst {α : Type} (P : α → Prop) (xs : List α) (x : α) : Prop :=
  ∃ before after, xs = before ++ x :: after ∧ P x ∧ ∀ y ∈ before, ¬ P y

theorem isFirst_iff_find? {α : Type} {P : α → Prop} [DecidablePred P] {xs : List α} {x : α} :
    IsFirst P xs x ↔ xs.find? (P ·) = some x := by
  simp only [IsFirst, List.find?_eq_some_iff_append, decide_eq_true_eq, Bool.not_eq_true',
    decide_eq_false_iff_not]
  constructor
  · rintro ⟨before, after, hxs, hx, hbefore⟩
    exact ⟨hx, before, after, hxs, hbefore⟩
  · rintro ⟨hx, before, after, hxs, hbefore⟩
    exact ⟨before, after, hxs, hx, hbefore⟩

theorem isFirst_append {α : Type} {P : α → Prop} {xs ys : List α} {x : α} :
    IsFirst P (xs ++ ys) x ↔ IsFirst P xs x ∨ (∀ y ∈ xs, ¬ P y) ∧ IsFirst P ys x := by
  classical
  simp [isFirst_iff_find?, List.find?_append, Option.or_eq_some_iff, List.find?_eq_none]

theorem isFirst_cons {α : Type} {P : α → Prop} {x y : α} {xs : List α} :
    IsFirst P (x :: xs) y ↔ P x ∧ x = y ∨ ¬ P x ∧ IsFirst P xs y := by
  classical
  by_cases hx : P x <;> simp [isFirst_iff_find?, hx]

theorem isFirst_map {α β : Type} {P : β → Prop} {f : α → β} {xs : List α} {y : β} :
    IsFirst P (xs.map f) y ↔ ∃ x, IsFirst (fun x => P (f x)) xs x ∧ f x = y := by
  classical
  simp only [isFirst_iff_find?, List.find?_map, Option.map_eq_some_iff]
  rfl

section Steps

variable {ε α β : Type} {step : α → Except ε β} {xs : List α}

theorem mapM_eq_ok_iff {ys : List β} :
    xs.mapM step = .ok ys ↔ List.Forall₂ (fun x y => step x = .ok y) xs ys := by
  induction xs generalizing ys with
  | nil => simp [pure, Except.pure, eq_comm]
  | cons x xs ih =>
      rw [List.mapM_cons, bind_eq_ok_iff, List.forall₂_cons_left_iff]
      simp only [bind_eq_ok_iff, ih, pure, Except.pure, Except.ok.injEq]
      constructor
      · rintro ⟨y, hy, ys, hys, rfl⟩
        exact ⟨y, ys, hy, hys, rfl⟩
      · rintro ⟨y, ys, hy, hys, rfl⟩
        exact ⟨y, hy, ys, hys, rfl⟩

/-- The first step that fails is reported. -/
theorem mapM_eq_error_iff {err : ε} :
    xs.mapM step = .error err ↔
      ∃ x, IsFirst (fun x => ∃ err, step x = .error err) xs x ∧ step x = .error err := by
  induction xs with
  | nil => simp [IsFirst, pure, Except.pure]
  | cons x xs ih =>
      rw [List.mapM_cons, bind_eq_error_iff]
      simp only [bind_eq_error_iff, isFirst_cons, ih]
      cases hx : step x with
      | error err' =>
          constructor
          · rintro (herr | ⟨y, hy, -⟩)
            · exact ⟨x, .inl ⟨⟨err', rfl⟩, rfl⟩, hx.trans herr⟩
            · cases hy
          · rintro ⟨x', ⟨-, rfl⟩ | ⟨hnone, -⟩, herr⟩
            · exact .inl (hx.symm.trans herr)
            · exact absurd ⟨err', rfl⟩ hnone
      | ok y =>
          constructor
          · rintro (herr | ⟨y', -, ⟨x', hfirst, herr⟩ | ⟨ys, -, hpure⟩⟩)
            · cases herr
            · exact ⟨x', .inr ⟨by simp, hfirst⟩, herr⟩
            · cases hpure
          · rintro ⟨x', ⟨⟨err', herr'⟩, -⟩ | ⟨-, hfirst⟩, herr⟩
            · cases herr'
            · exact .inr ⟨y, rfl, .inl ⟨x', hfirst, herr⟩⟩

end Steps

/-! ## Columns -/

/-- The declaration has a path, and the column has what it declares. -/
structure ColumnDeclaration.Gives (c : ColumnDeclaration) (column : Column) : Prop where
  name : column.name = .ofText c.name
  path : column.path.toText = c.path
  kind : column.kind = c.kind
  label : column.label = c.label
  display : column.display = c.display

namespace ColumnDeclaration

/-- The text is one that paths are written as. -/
def HasPath (c : ColumnDeclaration) : Prop := ∃ path : FieldPath, path.toText = c.path

theorem hasPath_iff {c : ColumnDeclaration} :
    c.HasPath ↔ ∃ path, FieldPath.ofText? c.path = some path := by
  simp only [HasPath, FieldPath.ofText?_eq_some_iff]

theorem gives_iff {c : ColumnDeclaration} {path : FieldPath} (hpath : path.toText = c.path)
    {column : Column} :
    c.Gives column ↔ column = ⟨.ofText c.name, path, c.kind, c.label, c.display⟩ := by
  constructor
  · rintro ⟨hname, hsame, hkind, hlabel, hdisplay⟩
    have hpaths : column.path = path := FieldPath.toText_injective (hsame.trans hpath.symm)
    cases column
    simp_all
  · rintro rfl
    exact ⟨rfl, hpath, rfl, rfl, rfl⟩

/-- What is wrong with a column after columns of the names `seen`. -/
inductive Defective (c : ColumnDeclaration) (seen : List ColumnName) : Defect → Prop
  | malformedPath (hpath : ¬ c.HasPath) : c.Defective seen (.malformedPath c.name c.path)
  | repeatedColumn (hpath : c.HasPath) (hname : .ofText c.name ∈ seen) :
      c.Defective seen (.repeatedColumn c.name)

theorem Defective.congr {c : ColumnDeclaration} {seen seen' : List ColumnName} {x : Defect}
    (h : c.Defective seen x) (hseen : ∀ name, name ∈ seen ↔ name ∈ seen') :
    c.Defective seen' x := by
  cases h with
  | malformedPath hpath => exact .malformedPath hpath
  | repeatedColumn hpath hname => exact .repeatedColumn hpath ((hseen _).mp hname)

section Defective

variable {c : ColumnDeclaration} {seen : List ColumnName} {x : Defect}

theorem defective_iff_of_malformed (h : ¬ c.HasPath) :
    c.Defective seen x ↔ x = .malformedPath c.name c.path := by
  constructor
  · rintro (_ | ⟨hpath, _⟩)
    · rfl
    · exact absurd hpath h
  · rintro rfl
    exact .malformedPath h

theorem defective_iff_of_repeated (hpath : c.HasPath) (hname : .ofText c.name ∈ seen) :
    c.Defective seen x ↔ x = .repeatedColumn c.name := by
  constructor
  · rintro (hmalformed | _)
    · exact absurd hpath hmalformed
    · rfl
  · rintro rfl
    exact .repeatedColumn hpath hname

theorem not_defective (hpath : c.HasPath) (hname : .ofText c.name ∉ seen) :
    ¬ c.Defective seen x := by
  rintro (hmalformed | ⟨_, hseen⟩)
  · exact hmalformed hpath
  · exact hname hseen

end Defective

end ColumnDeclaration

/-- The names under which columns are registered. -/
def registeredNames (cs : List ColumnDeclaration) : List ColumnName :=
  cs.map fun c => .ofText c.name

/-- All paths are well-formed, and no name is among those `seen` or repeated. -/
structure Registrable (seen : List ColumnName) (cs : List ColumnDeclaration) : Prop where
  hasPath : ∀ c ∈ cs, c.HasPath
  nodup : (registeredNames cs).Nodup
  new : ∀ name ∈ registeredNames cs, name ∉ seen

/-- The defect of the first column that has one. -/
def FirstColumnDefect (seen : List ColumnName) (cs : List ColumnDeclaration) (x : Defect) : Prop :=
  ∃ before c after, cs = before ++ c :: after ∧ Registrable seen before ∧
    c.Defective (registeredNames before ++ seen) x

theorem registrable_nil (seen : List ColumnName) : Registrable seen [] :=
  ⟨by simp, by simp [registeredNames], by simp [registeredNames]⟩

theorem registrable_cons {seen : List ColumnName} {c : ColumnDeclaration}
    {cs : List ColumnDeclaration} :
    Registrable seen (c :: cs) ↔
      (c.HasPath ∧ .ofText c.name ∉ seen) ∧ Registrable (.ofText c.name :: seen) cs := by
  constructor
  · rintro ⟨hpath, hnodup, hnew⟩
    rw [List.forall_mem_cons] at hpath
    simp only [registeredNames, List.map_cons, List.nodup_cons, List.forall_mem_cons] at hnodup hnew
    refine ⟨⟨hpath.1, hnew.1⟩, hpath.2, hnodup.2, ?_⟩
    rintro name hname (_ | ⟨_, hseen⟩)
    · exact hnodup.1 hname
    · exact hnew.2 name hname hseen
  · rintro ⟨⟨hpath, hname⟩, hpaths, hnodup, hnew⟩
    refine ⟨List.forall_mem_cons.mpr ⟨hpath, hpaths⟩, ?_, ?_⟩
    · refine List.nodup_cons.mpr ⟨fun hmem => ?_, hnodup⟩
      exact hnew _ hmem List.mem_cons_self
    · refine List.forall_mem_cons.mpr ⟨hname, fun name hmem hseen => ?_⟩
      exact hnew name hmem (List.mem_cons_of_mem _ hseen)

theorem firstColumnDefect_cons {seen : List ColumnName} {c : ColumnDeclaration}
    {cs : List ColumnDeclaration} {x : Defect} :
    FirstColumnDefect seen (c :: cs) x ↔
      c.Defective seen x ∨
        (c.HasPath ∧ .ofText c.name ∉ seen) ∧ FirstColumnDefect (.ofText c.name :: seen) cs x := by
  have hseen (before : List ColumnDeclaration) (name : ColumnName) :
      name ∈ registeredNames (c :: before) ++ seen ↔
        name ∈ registeredNames before ++ .ofText c.name :: seen :=
    List.perm_middle.symm.mem_iff
  constructor
  · rintro ⟨before, c', after, hcs, hbefore, hdefect⟩
    cases before with
    | nil =>
        cases hcs
        exact .inl hdefect
    | cons b before =>
        cases hcs
        obtain ⟨hhead, hbefore⟩ := registrable_cons.mp hbefore
        exact .inr ⟨hhead, before, c', after, rfl, hbefore, hdefect.congr (hseen before)⟩
  · rintro (hdefect | ⟨hhead, before, c', after, rfl, hbefore, hdefect⟩)
    · exact ⟨[], c, cs, rfl, registrable_nil seen, hdefect⟩
    · exact ⟨c :: before, c', after, rfl, registrable_cons.mpr ⟨hhead, hbefore⟩,
        hdefect.congr fun name => (hseen before name).symm⟩

section Register

variable {kind : Kind} {seen : List ColumnName} {c : ColumnDeclaration}
  {cs : List ColumnDeclaration}

theorem register_nil : register kind seen [] = .ok [] := rfl

theorem register_cons : register kind seen (c :: cs) =
    (FieldPath.ofText? c.path).elim (.error ⟨kind, .malformedPath c.name c.path⟩) fun path =>
      if .ofText c.name ∈ seen then .error ⟨kind, .repeatedColumn c.name⟩
      else register kind (.ofText c.name :: seen) cs >>= fun columns =>
        .ok (⟨.ofText c.name, path, c.kind, c.label, c.display⟩ :: columns) := by
  rw [register]
  cases FieldPath.ofText? c.path with
  | none => rfl
  | some path =>
      dsimp only
      split
      · rfl
      · rw [Option.elim_some]
        cases register kind (.ofText c.name :: seen) cs <;> rfl

theorem register_cons_of_malformed (h : ¬ c.HasPath) :
    register kind seen (c :: cs) = .error ⟨kind, .malformedPath c.name c.path⟩ := by
  rw [ColumnDeclaration.hasPath_iff, ← Option.isSome_iff_exists, Option.not_isSome_iff_eq_none] at h
  rw [register_cons, h, Option.elim_none]

theorem register_cons_of_repeated (hpath : c.HasPath) (hname : .ofText c.name ∈ seen) :
    register kind seen (c :: cs) = .error ⟨kind, .repeatedColumn c.name⟩ := by
  obtain ⟨path, hpath⟩ := ColumnDeclaration.hasPath_iff.mp hpath
  rw [register_cons, hpath, Option.elim_some, if_pos hname]

theorem register_cons_of_new {path : FieldPath} (hpath : path.toText = c.path)
    (hname : .ofText c.name ∉ seen) :
    register kind seen (c :: cs) = register kind (.ofText c.name :: seen) cs >>= fun columns =>
      .ok (⟨.ofText c.name, path, c.kind, c.label, c.display⟩ :: columns) := by
  rw [← FieldPath.ofText?_eq_some_iff] at hpath
  rw [register_cons, hpath, Option.elim_some, if_neg hname]

theorem register_eq_ok_iff {columns : List Column} :
    register kind seen cs = .ok columns ↔
      Registrable seen cs ∧ List.Forall₂ ColumnDeclaration.Gives cs columns := by
  induction cs generalizing seen columns with
  | nil =>
      simp only [register_nil, registrable_nil, List.forall₂_nil_left_iff, true_and,
        Except.ok.injEq]
      exact eq_comm
  | cons c cs ih =>
      rw [registrable_cons]
      by_cases hpath : c.HasPath
      · by_cases hname : .ofText c.name ∈ seen
        · simp [register_cons_of_repeated hpath hname, hname]
        · obtain ⟨path, hwritten⟩ := hpath
          rw [register_cons_of_new hwritten hname, bind_eq_ok_iff, List.forall₂_cons_left_iff]
          simp only [ih, ColumnDeclaration.gives_iff hwritten, Except.ok.injEq]
          constructor
          · rintro ⟨rest, ⟨hrest, hgives⟩, rfl⟩
            exact ⟨⟨⟨⟨path, hwritten⟩, hname⟩, hrest⟩, _, rest, rfl, hgives, rfl⟩
          · rintro ⟨⟨-, hrest⟩, _, rest, rfl, hgives, rfl⟩
            exact ⟨rest, ⟨hrest, hgives⟩, rfl⟩
      · simp [register_cons_of_malformed hpath, hpath]

theorem register_eq_error_iff {err : EntityError} :
    register kind seen cs = .error err ↔
      err.kind = kind ∧ FirstColumnDefect seen cs err.defect := by
  induction cs generalizing seen with
  | nil => simp [register_nil, FirstColumnDefect]
  | cons c cs ih =>
      obtain ⟨kind', x⟩ := err
      rw [firstColumnDefect_cons]
      by_cases hpath : c.HasPath
      · by_cases hname : .ofText c.name ∈ seen
        · rw [register_cons_of_repeated hpath hname,
            ColumnDeclaration.defective_iff_of_repeated hpath hname]
          simp [hname, @eq_comm _ kind', @eq_comm _ x]
        · obtain ⟨path, hwritten⟩ := hpath
          have hhas : c.HasPath := ⟨path, hwritten⟩
          rw [register_cons_of_new hwritten hname, bind_eq_error_iff, ih]
          simp [ColumnDeclaration.not_defective hhas hname, hhas, hname]
      · rw [register_cons_of_malformed hpath, ColumnDeclaration.defective_iff_of_malformed hpath]
        simp [hpath, @eq_comm _ kind', @eq_comm _ x]

end Register

theorem exists_gives {cs : List ColumnDeclaration} (h : ∀ c ∈ cs, c.HasPath) :
    ∃ columns, List.Forall₂ ColumnDeclaration.Gives cs columns := by
  induction cs with
  | nil => exact ⟨[], .nil⟩
  | cons c cs ih =>
      rw [List.forall_mem_cons] at h
      obtain ⟨path, hpath⟩ := h.1
      obtain ⟨columns, hcolumns⟩ := ih h.2
      exact ⟨_, .cons ((ColumnDeclaration.gives_iff hpath).mpr rfl) hcolumns⟩

theorem exists_gives_of_mem {cs : List ColumnDeclaration} {columns : List Column}
    (h : List.Forall₂ ColumnDeclaration.Gives cs columns) {c : ColumnDeclaration} (hc : c ∈ cs) :
    ∃ column ∈ columns, c.Gives column := by
  induction h with
  | nil => cases hc
  | cons hgives _ ih =>
      rcases List.mem_cons.mp hc with rfl | hc
      · exact ⟨_, List.mem_cons_self, hgives⟩
      · obtain ⟨column, hcolumn, hgives⟩ := ih hc
        exact ⟨column, List.mem_cons_of_mem _ hcolumn, hgives⟩

theorem exists_declared_of_mem {cs : List ColumnDeclaration} {columns : List Column}
    (h : List.Forall₂ ColumnDeclaration.Gives cs columns) {column : Column}
    (hcolumn : column ∈ columns) : ∃ c ∈ cs, c.Gives column := by
  induction h with
  | nil => cases hcolumn
  | cons hgives _ ih =>
      rcases List.mem_cons.mp hcolumn with rfl | hcolumn
      · exact ⟨_, List.mem_cons_self, hgives⟩
      · obtain ⟨c, hc, hgives⟩ := ih hcolumn
        exact ⟨c, List.mem_cons_of_mem _ hc, hgives⟩

theorem map_name_of_gives {cs : List ColumnDeclaration} {columns : List Column}
    (h : List.Forall₂ ColumnDeclaration.Gives cs columns) :
    columns.map (·.name) = registeredNames cs := by
  induction h with
  | nil => rfl
  | cons hgives _ ih =>
      rw [List.map_cons, hgives.name, ih]
      rfl

theorem nodup_names_of_register {kind : Kind} {seen : List ColumnName}
    {cs : List ColumnDeclaration} {columns : List Column}
    (h : register kind seen cs = .ok columns) : (columns.map (·.name)).Nodup := by
  obtain ⟨hregistrable, hgives⟩ := register_eq_ok_iff.mp h
  rw [map_name_of_gives hgives]
  exact hregistrable.nodup

/-! ## Names -/

theorem resolve_eq_ok_iff {kind : Kind} {columns : List Column} {list : NameList}
    {names : List String} {resolved : List ColumnName} :
    resolve kind columns list names = .ok resolved ↔
      (∀ name ∈ names, .ofText name ∈ columns.map (·.name)) ∧ resolved = names.map .ofText := by
  unfold resolve
  constructor
  · intro h
    split at h
    · cases h
    · rename_i hfind
      cases h
      exact ⟨by simpa using hfind, rfl⟩
  · rintro ⟨hregistered, rfl⟩
    rw [List.find?_eq_none.mpr (by simpa using hregistered)]

theorem resolve_eq_error_iff {kind : Kind} {columns : List Column} {list : NameList}
    {names : List String} {err : EntityError} :
    resolve kind columns list names = .error err ↔
      ∃ name, IsFirst (fun name => .ofText name ∉ columns.map (·.name)) names name ∧
        err = ⟨kind, .unregistered list name⟩ := by
  simp only [isFirst_iff_find?, resolve]
  constructor
  · intro h
    split at h
    · rename_i name hname
      cases h
      exact ⟨name, hname, rfl⟩
    · cases h
  · rintro ⟨name, hname, rfl⟩
    rw [hname]

theorem resolve_eq_ok {kind : Kind} {columns : List Column} {list : NameList}
    {names : List String} {resolved : List ColumnName}
    (h : resolve kind columns list names = .ok resolved) :
    resolved = names.map .ofText ∧ ∀ name ∈ resolved, name ∈ columns.map (·.name) := by
  obtain ⟨hregistered, rfl⟩ := resolve_eq_ok_iff.mp h
  exact ⟨rfl, by simpa using hregistered⟩

end RecordListing
