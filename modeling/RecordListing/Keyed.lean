namespace RecordListing

/-!
# Entries by key

A list of entries with text keys, of which the first with a key counts. Entries
put into the empty list stand in the order of their keys, each key once.
-/

abbrev Keyed (α : Type) := List (String × α)

namespace Keyed

variable {α β : Type}

def get? (key : String) : Keyed α → Option α
  | [] => none
  | (k, v) :: rest => if k = key then some v else get? key rest

/-- An entry stands before the first greater key. -/
def insertSorted (key : String) (value : α) : Keyed α → Keyed α
  | [] => [(key, value)]
  | (k, v) :: rest =>
    if key < k then (key, value) :: (k, v) :: rest else (k, v) :: insertSorted key value rest

def replace (key : String) (value : α) : Keyed α → Keyed α
  | [] => []
  | (k, v) :: rest =>
    if k = key then (k, value) :: rest else (k, v) :: replace key value rest

/-- Sets an entry: in its place if the key is there, else in the order of keys. -/
def put (key : String) (value : α) (entries : Keyed α) : Keyed α :=
  match get? key entries with
  | some _ => replace key value entries
  | none => insertSorted key value entries

@[simp] theorem get?_nil (key : String) : get? key ([] : Keyed α) = none := rfl

theorem get?_insertSorted_self (key : String) (value : α) {entries : Keyed α}
    (h : get? key entries = none) : get? key (insertSorted key value entries) = some value := by
  induction entries with
  | nil => simp [insertSorted, get?]
  | cons m rest ih =>
      obtain ⟨k, v⟩ := m
      simp only [get?] at h
      split at h
      · cases h
      · rename_i hk
        simp only [insertSorted]
        split
        · simp [get?]
        · simp [get?, hk, ih h]

theorem get?_insertSorted_of_ne {key other : String} (hne : key ≠ other) (value : α)
    (entries : Keyed α) :
    get? other (insertSorted key value entries) = get? other entries := by
  induction entries with
  | nil => simp [insertSorted, get?, hne]
  | cons m rest ih =>
      obtain ⟨k, v⟩ := m
      simp only [insertSorted]
      split
      · simp [get?, hne]
      · simp [get?, ih]

theorem get?_replace_self (key : String) (value : α) {entries : Keyed α} {old : α}
    (h : get? key entries = some old) : get? key (replace key value entries) = some value := by
  induction entries with
  | nil => simp at h
  | cons m rest ih =>
      obtain ⟨k, v⟩ := m
      simp only [replace]
      split
      · simp [get?, *]
      · rename_i hk
        simp only [get?, hk, ↓reduceIte] at h ⊢
        exact ih h

theorem get?_replace_of_ne {key other : String} (hne : key ≠ other) (value : α)
    (entries : Keyed α) :
    get? other (replace key value entries) = get? other entries := by
  induction entries with
  | nil => rfl
  | cons m rest ih =>
      obtain ⟨k, v⟩ := m
      simp only [replace]
      split
      · rename_i hk
        simp [get?, hk, hne]
      · simp [get?, ih]

theorem replace_of_get? {key : String} {value : α} {entries : Keyed α}
    (h : get? key entries = some value) : replace key value entries = entries := by
  induction entries with
  | nil => rfl
  | cons m rest ih =>
      obtain ⟨k, v⟩ := m
      simp only [get?] at h
      simp only [replace]
      split
      · rename_i hk
        simp only [hk, ↓reduceIte, Option.some.injEq] at h
        rw [h]
      · rename_i hk
        rw [ih (by simpa [hk] using h)]

theorem replace_replace (key : String) (old new : α) (entries : Keyed α) :
    replace key new (replace key old entries) = replace key new entries := by
  induction entries with
  | nil => rfl
  | cons m rest ih =>
      obtain ⟨k, v⟩ := m
      by_cases hk : k = key <;> simp [replace, hk, ih]

theorem replace_insertSorted (key : String) (old new : α) {entries : Keyed α}
    (h : get? key entries = none) :
    replace key new (insertSorted key old entries) = insertSorted key new entries := by
  induction entries with
  | nil => simp [insertSorted, replace]
  | cons m rest ih =>
      obtain ⟨k, v⟩ := m
      obtain ⟨hk, hrest⟩ : k ≠ key ∧ get? key rest = none := by
        by_cases hk : k = key <;> simp_all [get?]
      by_cases hlt : key < k
      · simp [insertSorted, replace, hlt]
      · simp [insertSorted, replace, hlt, hk, ih hrest]

theorem replace_comm {key other : String} (hne : key ≠ other) (v w : α) (entries : Keyed α) :
    replace key v (replace other w entries) = replace other w (replace key v entries) := by
  induction entries with
  | nil => rfl
  | cons m rest ih =>
      obtain ⟨k, u⟩ := m
      by_cases hk : k = key
      · simp [replace, hk, hne]
      · by_cases hother : k = other <;> simp [replace, hk, hother, hne.symm, ih]

theorem replace_insertSorted_comm {key other : String} (hne : key ≠ other) (v w : α)
    (entries : Keyed α) :
    replace key v (insertSorted other w entries) =
      insertSorted other w (replace key v entries) := by
  induction entries with
  | nil => simp [insertSorted, replace, hne.symm]
  | cons m rest ih =>
      obtain ⟨k, u⟩ := m
      by_cases hlt : other < k
      · by_cases hk : k = key <;> simp_all [insertSorted, replace, hne.symm]
      · by_cases hk : k = key
        · subst hk
          simp [insertSorted, replace, hlt]
        · simp [insertSorted, replace, hlt, hk, ih]

theorem insertSorted_comm_of_lt {key other : String} (hlt : key < other) (v w : α)
    (entries : Keyed α) :
    insertSorted key v (insertSorted other w entries) =
      insertSorted other w (insertSorted key v entries) := by
  have hasymm : ¬ other < key := String.lt_asymm hlt
  induction entries with
  | nil => simp [insertSorted, hlt, hasymm]
  | cons m rest ih =>
      obtain ⟨k, u⟩ := m
      by_cases hother : other < k
      · have hkey : key < k := String.lt_trans hlt hother
        simp [insertSorted, hother, hkey, hlt, hasymm]
      · by_cases hkey : key < k <;> simp [insertSorted, hother, hkey, hasymm, ih]

theorem insertSorted_comm {key other : String} (hne : key ≠ other) (v w : α)
    (entries : Keyed α) :
    insertSorted key v (insertSorted other w entries) =
      insertSorted other w (insertSorted key v entries) := by
  by_cases hlt : key < other
  · exact insertSorted_comm_of_lt hlt v w entries
  · have hgt : other < key := by grind
    exact (insertSorted_comm_of_lt hgt w v entries).symm

theorem put_of_none {key : String} {entries : Keyed α} (h : get? key entries = none)
    (value : α) : put key value entries = insertSorted key value entries := by
  simp only [put, h]

theorem put_of_some {key : String} {old : α} {entries : Keyed α}
    (h : get? key entries = some old) (value : α) :
    put key value entries = replace key value entries := by
  simp only [put, h]

/-- Setting an entry to what it is changes nothing. -/
theorem put_of_get? {key : String} {value : α} {entries : Keyed α}
    (h : get? key entries = some value) : put key value entries = entries := by
  simp only [put, h, replace_of_get? h]

@[simp] theorem get?_put_self (key : String) (value : α) (entries : Keyed α) :
    get? key (put key value entries) = some value := by
  unfold put
  split
  · exact get?_replace_self key value (by assumption)
  · exact get?_insertSorted_self key value (by assumption)

theorem get?_put_of_ne {key other : String} (hne : key ≠ other) (value : α)
    (entries : Keyed α) : get? other (put key value entries) = get? other entries := by
  unfold put
  split
  · exact get?_replace_of_ne hne value entries
  · exact get?_insertSorted_of_ne hne value entries

/-- Of two values for one key the later counts. -/
theorem put_put_self (key : String) (old new : α) (entries : Keyed α) :
    put key new (put key old entries) = put key new entries := by
  rw [put_of_some (get?_put_self key old entries)]
  cases h : get? key entries with
  | none => rw [put_of_none h, put_of_none h, replace_insertSorted key old new h]
  | some u => rw [put_of_some h, put_of_some h, replace_replace]

/-- The order in which two keys are set does not matter. -/
theorem put_comm {key other : String} (hne : key ≠ other) (v w : α) (entries : Keyed α) :
    put key v (put other w entries) = put other w (put key v entries) := by
  have hkey : get? key (put other w entries) = get? key entries :=
    get?_put_of_ne hne.symm w entries
  have hother : get? other (put key v entries) = get? other entries :=
    get?_put_of_ne hne v entries
  cases hk : get? key entries with
  | none =>
      cases ho : get? other entries with
      | none =>
          rw [put_of_none (hkey.trans hk), put_of_none ho, put_of_none (hother.trans ho),
            put_of_none hk, insertSorted_comm hne]
      | some u =>
          rw [put_of_none (hkey.trans hk), put_of_some ho, put_of_some (hother.trans ho),
            put_of_none hk, replace_insertSorted_comm hne.symm]
  | some u =>
      cases ho : get? other entries with
      | none =>
          rw [put_of_some (hkey.trans hk), put_of_none ho, put_of_none (hother.trans ho),
            put_of_some hk, replace_insertSorted_comm hne]
      | some u' =>
          rw [put_of_some (hkey.trans hk), put_of_some ho, put_of_some (hother.trans ho),
            put_of_some hk, replace_comm hne]

/-! ## Entries side by side -/

theorem get?_append (key : String) (entries entries' : Keyed α) :
    get? key (entries ++ entries') = (get? key entries).or (get? key entries') := by
  induction entries with
  | nil => rfl
  | cons m rest ih =>
      obtain ⟨k, v⟩ := m
      by_cases hk : k = key <;> simp [get?, hk, ih]

theorem replace_append_of_none {key : String} {entries : Keyed α} (h : get? key entries = none)
    (value : α) (entries' : Keyed α) :
    replace key value (entries ++ entries') = entries ++ replace key value entries' := by
  induction entries with
  | nil => rfl
  | cons m rest ih =>
      obtain ⟨k, v⟩ := m
      by_cases hk : k = key
      · simp [get?, hk] at h
      · rw [get?, if_neg hk] at h
        simp [replace, hk, ih h]

theorem get?_filter (p : String → Bool) (key : String) (entries : Keyed α) :
    get? key (entries.filter fun e => p e.1) = if p key then get? key entries else none := by
  induction entries with
  | nil => simp
  | cons e rest ih =>
      obtain ⟨k, v⟩ := e
      by_cases hk : k = key
      · subst hk
        by_cases hp : p k <;> simp [get?, hp, ih]
      · by_cases hp : p k <;> simp [get?, hp, hk, ih]

theorem get?_map (f : String → α → β) (key : String) (entries : Keyed α) :
    get? key (entries.map fun e => (e.1, f e.1 e.2)) = (get? key entries).map (f key) := by
  induction entries with
  | nil => rfl
  | cons e rest ih =>
      obtain ⟨k, v⟩ := e
      by_cases hk : k = key
      · subst hk
        simp [get?]
      · simp [get?, hk, ih]

/-! ## Keys of their own -/

theorem get?_eq_none_iff {key : String} {entries : Keyed α} :
    get? key entries = none ↔ key ∉ entries.map (·.1) := by
  induction entries with
  | nil => simp
  | cons m rest ih =>
      obtain ⟨k, v⟩ := m
      by_cases hk : k = key
      · simp [get?, hk]
      · simp [get?, hk, Ne.symm hk, ih]

theorem mem_of_get? {key : String} {value : α} {entries : Keyed α}
    (h : get? key entries = some value) : (key, value) ∈ entries := by
  induction entries with
  | nil => simp at h
  | cons m rest ih =>
      obtain ⟨k, v⟩ := m
      simp only [get?] at h
      split at h
      · simp_all
      · exact List.mem_cons_of_mem _ (ih h)

theorem get?_eq_some_of_mem {key : String} {value : α} {entries : Keyed α}
    (hnodup : (entries.map (·.1)).Nodup) (h : (key, value) ∈ entries) :
    get? key entries = some value := by
  induction entries with
  | nil => simp at h
  | cons m rest ih =>
      obtain ⟨k, v⟩ := m
      rw [List.map_cons, List.nodup_cons] at hnodup
      rcases List.mem_cons.mp h with heq | hrest
      · cases heq
        simp [get?]
      · have hk : k ≠ key := by
          rintro rfl
          exact hnodup.1 (List.mem_map.mpr ⟨_, hrest, rfl⟩)
        simpa [get?, hk] using ih hnodup.2 hrest

/-- Where every key stands once, the order of the entries does not matter. -/
theorem get?_eq_of_perm {entries entries' : Keyed α} (hnodup : (entries.map (·.1)).Nodup)
    (h : entries.Perm entries') (key : String) : get? key entries = get? key entries' := by
  cases hget : get? key entries' with
  | none =>
      rw [get?_eq_none_iff] at hget ⊢
      exact fun hmem => hget ((h.map (·.1)).mem_iff.mp hmem)
  | some value =>
      exact get?_eq_some_of_mem hnodup (h.mem_iff.mpr (mem_of_get? hget))

theorem insertSorted_perm (key : String) (value : α) (entries : Keyed α) :
    (insertSorted key value entries).Perm ((key, value) :: entries) := by
  induction entries with
  | nil => exact .refl _
  | cons m rest ih =>
      obtain ⟨k, v⟩ := m
      simp only [insertSorted]
      split
      · exact .refl _
      · exact (ih.cons (k, v)).trans (.swap (key, value) (k, v) rest)

theorem replace_keys (key : String) (value : α) (entries : Keyed α) :
    (replace key value entries).map (·.1) = entries.map (·.1) := by
  induction entries with
  | nil => rfl
  | cons m rest ih =>
      obtain ⟨k, v⟩ := m
      by_cases hk : k = key <;> simp [replace, hk, ih]

theorem nodup_put (key : String) (value : α) {entries : Keyed α}
    (h : (entries.map (·.1)).Nodup) : ((put key value entries).map (·.1)).Nodup := by
  cases hget : get? key entries with
  | some old => rwa [put_of_some hget, replace_keys]
  | none =>
      rw [put_of_none hget, ((insertSorted_perm key value entries).map (·.1)).nodup_iff,
        List.map_cons, List.nodup_cons]
      exact ⟨get?_eq_none_iff.mp hget, h⟩

/-- Entries put one after the other into `acc`. -/
def putAll (entries acc : Keyed α) : Keyed α :=
  entries.foldl (fun acc m => put m.1 m.2 acc) acc

@[simp] theorem putAll_nil (acc : Keyed α) : putAll [] acc = acc := rfl

@[simp] theorem putAll_cons (m : String × α) (entries acc : Keyed α) :
    putAll (m :: entries) acc = putAll entries (put m.1 m.2 acc) := rfl

/-- Entries whose keys are their own are all kept. -/
theorem putAll_perm {entries acc : Keyed α} (h : ((entries ++ acc).map (·.1)).Nodup) :
    (putAll entries acc).Perm (entries ++ acc) := by
  induction entries generalizing acc with
  | nil => exact .refl _
  | cons m rest ih =>
      rw [List.cons_append, List.map_cons, List.nodup_cons] at h
      have hnew : get? m.1 acc = none := by
        apply get?_eq_none_iff.mpr
        intro hmem
        exact h.1 (by rw [List.map_append]; exact List.mem_append_right _ hmem)
      have hput : (rest ++ put m.1 m.2 acc).Perm (m :: (rest ++ acc)) := by
        rw [put_of_none hnew]
        exact ((insertSorted_perm m.1 m.2 acc).append_left rest).trans List.perm_middle
      refine (ih ((hput.map (·.1)).nodup_iff.mpr ?_)).trans hput
      rw [List.map_cons, List.nodup_cons]
      exact h

theorem insertSorted_of_lt {key : String} {entries : Keyed α} (h : ∀ m ∈ entries, m.1 < key)
    (value : α) : insertSorted key value entries = entries ++ [(key, value)] := by
  induction entries with
  | nil => rfl
  | cons m rest ih =>
      obtain ⟨k, v⟩ := m
      rw [List.forall_mem_cons] at h
      rw [insertSorted, if_neg (String.lt_asymm h.1), ih h.2, List.cons_append]

/-- Entries in the order of their keys are put one behind the other. -/
theorem putAll_of_ascending {entries acc : Keyed α}
    (h : ((acc ++ entries).map (·.1)).Pairwise (· < ·)) : putAll entries acc = acc ++ entries := by
  induction entries generalizing acc with
  | nil => rw [putAll_nil, List.append_nil]
  | cons m rest ih =>
      have hbefore : ∀ a ∈ acc, a.1 < m.1 := by
        intro a ha
        rw [List.pairwise_map, List.pairwise_append] at h
        exact h.2.2 a ha m List.mem_cons_self
      have hnew : get? m.1 acc = none := by
        rw [get?_eq_none_iff, List.mem_map]
        rintro ⟨a, ha, hkey⟩
        exact String.lt_irrefl _ (hkey ▸ hbefore a ha)
      rw [List.append_cons] at h ⊢
      rw [putAll_cons, put_of_none hnew, insertSorted_of_lt hbefore]
      exact ih h

end Keyed

end RecordListing
