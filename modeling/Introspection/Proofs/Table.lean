import Introspection.Table

set_option autoImplicit false

namespace Introspection

namespace Table

variable {κ ν : Type} [DecidableEq κ]

def KeptIn (t u : Table κ ν) : Prop := ∀ key value, t.get? key = some value → u.get? key = some value

theorem KeptIn.refl (t : Table κ ν) : t.KeptIn t := fun _ _ h => h

theorem KeptIn.trans {t u v : Table κ ν} (htu : t.KeptIn u) (huv : u.KeptIn v) : t.KeptIn v :=
  fun key value h => huv key value (htu key value h)

theorem lookup_map_replace (entries : List (κ × ν)) (key other : κ) (value : ν) :
    (entries.map fun entry => if entry.1 = key then (key, value) else entry).lookup other =
      if other = key then (entries.lookup key).map fun _ => value else entries.lookup other := by
  induction entries with
  | nil => simp
  | cons entry entries ih =>
    obtain ⟨first, old⟩ := entry
    rw [List.map_cons]
    by_cases hfirst : first = key
    · rw [if_pos hfirst, hfirst, List.lookup_cons, List.lookup_cons, List.lookup_cons, ih]
      by_cases hother : other = key
      · simp [hother]
      · have hne : (other == key) = false := by simpa using hother
        simp [hother, hne]
    · have hkey : (key == first) = false := by simpa using Ne.symm hfirst
      rw [if_neg hfirst, List.lookup_cons, List.lookup_cons, List.lookup_cons, hkey, ih]
      by_cases hother : other = key
      · simp [hother, hkey]
      · simp [hother]

theorem get?_insert (t : Table κ ν) (key other : κ) (value : ν) :
    (t.insert key value).get? other = if other = key then some value else t.get? other := by
  unfold insert
  split
  · next h =>
    obtain ⟨old, hold⟩ := Option.isSome_iff_exists.mp h
    change List.lookup _ _ = _
    rw [lookup_map_replace, show t.entries.lookup key = some old from hold]
    rfl
  · next h =>
    have hfree : t.entries.lookup key = none := Option.not_isSome_iff_eq_none.mp h
    by_cases hother : other = key
    · simp [get?, List.lookup_append, hother, hfree]
    · have hne : (other == key) = false := by simpa using hother
      simp [get?, List.lookup_append, List.lookup_cons, hother, hne]

theorem keptIn_insert {t : Table κ ν} {key : κ} (hfree : t.get? key = none) (value : ν) :
    t.KeptIn (t.insert key value) := by
  intro other old h
  have hother : other ≠ key := by
    rintro rfl
    exact absurd (hfree.symm.trans h) (by simp)
  rw [get?_insert, if_neg hother, h]

theorem keptIn_insertNew (t : Table κ ν) (key : κ) (value : ν) : t.KeptIn (t.insertNew key value) := by
  intro other old h
  rw [get?_insertNew, h]
  rfl

theorem keptIn_insertAllNew (t : Table κ ν) (keys : List κ) (value : ν) :
    t.KeptIn (t.insertAllNew keys value) := by
  unfold insertAllNew
  induction keys generalizing t with
  | nil => exact KeptIn.refl t
  | cons key keys ih => exact (t.keptIn_insertNew key value).trans (ih (t.insertNew key value))

theorem get?_insertAllNew (t : Table κ ν) (keys : List κ) (value : ν) (key : κ) :
    (t.insertAllNew keys value).get? key = (t.get? key).or (if key ∈ keys then some value else none) := by
  unfold insertAllNew
  induction keys generalizing t with
  | nil => simp
  | cons first keys ih =>
    rw [List.foldl_cons, ih, get?_insertNew, Option.or_assoc]
    by_cases hfirst : key = first
    · simp [hfirst]
    · simp [hfirst]

theorem exists_get?_insertNew (t : Table κ ν) (key : κ) (value : ν) :
    ∃ found, (t.insertNew key value).get? key = some found := by
  rw [get?_insertNew, if_pos rfl]
  cases t.get? key with
  | some old => exact ⟨old, rfl⟩
  | none => exact ⟨value, rfl⟩

theorem mem_entries_of_get? {t : Table κ ν} {key : κ} {value : ν} (h : t.get? key = some value) :
    (key, value) ∈ t.entries := by
  obtain ⟨before, after, hsplit, _⟩ := List.lookup_eq_some_iff.mp h
  rw [hsplit]
  simp

theorem mem_entries_insertNew {t : Table κ ν} {key : κ} {value : ν} {entry : κ × ν}
    (h : entry ∈ (t.insertNew key value).entries) : entry ∈ t.entries ∨ entry = (key, value) := by
  unfold insertNew at h
  split at h
  · exact Or.inl h
  · simpa using h

theorem size_insertNew (t : Table κ ν) (key : κ) (value : ν) :
    (t.insertNew key value).size = if t.contains key then t.size else t.size + 1 := by
  unfold insertNew
  split
  · rfl
  · simp [size]

theorem mem_keys_iff (t : Table κ ν) (key : κ) : key ∈ t.keys ↔ (t.get? key).isSome = true := by
  rw [keys, get?, List.lookup_isSome_iff, List.mem_map]
  constructor
  · rintro ⟨entry, hentry, rfl⟩
    exact ⟨entry, hentry, beq_self_eq_true entry.1⟩
  · rintro ⟨entry, hentry, hkey⟩
    exact ⟨entry, hentry, (eq_of_beq hkey).symm⟩

theorem contains_eq_false_iff (t : Table κ ν) (key : κ) : t.contains key = false ↔ t.get? key = none := by
  simp [contains]

theorem keys_insertNew (t : Table κ ν) (key : κ) (value : ν) :
    (t.insertNew key value).keys = if key ∈ t.keys then t.keys else t.keys ++ [key] := by
  have hcontains : t.contains key = true ↔ key ∈ t.keys := (t.mem_keys_iff key).symm
  unfold insertNew
  simp only [hcontains]
  split
  · rfl
  · simp [keys]

/-- Every value is stored under its own name, and no other value is. -/
structure KeyedBy (t : Table κ ν) (name : ν → κ) : Prop where
  nodup : t.keys.Nodup
  named : ∀ entry ∈ t.entries, name entry.2 = entry.1

namespace KeyedBy

variable {t : Table κ ν} {name : ν → κ}

omit [DecidableEq κ] in
theorem empty (name : ν → κ) : ({} : Table κ ν).KeyedBy name := ⟨List.nodup_nil, by simp⟩

theorem insertNew (h : t.KeyedBy name) (value : ν) : (t.insertNew (name value) value).KeyedBy name where
  nodup := by
    rw [keys_insertNew]
    split
    · exact h.nodup
    · next hnew =>
      refine List.nodup_append.mpr ⟨h.nodup, by simp, ?_⟩
      rintro key hkey other hother rfl
      exact hnew (List.mem_singleton.mp hother ▸ hkey)
  named := by
    intro entry hentry
    obtain hold | rfl := mem_entries_insertNew hentry
    · exact h.named entry hold
    · rfl

omit [DecidableEq κ] in
theorem map_values (h : t.KeyedBy name) : t.values.map name = t.keys := by
  rw [values, keys, List.map_map]
  exact List.map_congr_left h.named

theorem mem_values_iff (h : t.KeyedBy name) {value : ν} : value ∈ t.values ↔ t.get? (name value) = some value := by
  constructor
  · intro hvalue
    obtain ⟨entry, hentry, rfl⟩ := List.mem_map.mp hvalue
    obtain ⟨before, after, hsplit⟩ := List.append_of_mem hentry
    rw [h.named entry hentry]
    refine List.lookup_eq_some_iff.mpr ⟨before, after, hsplit, ?_⟩
    have hnodup := h.nodup
    rw [keys, hsplit, List.map_append, List.map_cons, List.nodup_append] at hnodup
    intro other hother
    have hne : other.1 ≠ entry.1 := hnodup.2.2 _ (List.mem_map.mpr ⟨other, hother, rfl⟩) _ List.mem_cons_self
    simpa using hne.symm
  · intro hget
    exact List.mem_map.mpr ⟨_, mem_entries_of_get? hget, rfl⟩

end KeyedBy

end Table

theorem mem_insertMember {α : Type} [DecidableEq α] {members : List α} {member x : α} :
    x ∈ insertMember members member ↔ x ∈ members ∨ x = member := by
  unfold insertMember
  split
  · next hin =>
    constructor
    · exact Or.inl
    · rintro (h | rfl)
      · exact h
      · exact hin
  · simp

theorem mem_foldl_insertMember {α : Type} [DecidableEq α] {members added : List α} {x : α} :
    x ∈ added.foldl insertMember members ↔ x ∈ members ∨ x ∈ added := by
  induction added generalizing members with
  | nil => simp
  | cons member added ih => rw [List.foldl_cons, ih, mem_insertMember, List.mem_cons, or_assoc]

theorem subset_insertMember {α : Type} [DecidableEq α] (members : List α) (member : α) :
    members ⊆ insertMember members member :=
  fun _ hx => mem_insertMember.mpr (Or.inl hx)

theorem subset_foldl_insertMember {α : Type} [DecidableEq α] (members added : List α) :
    members ⊆ added.foldl insertMember members :=
  fun _ hx => mem_foldl_insertMember.mpr (Or.inl hx)

end Introspection
