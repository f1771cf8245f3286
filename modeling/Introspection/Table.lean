set_option autoImplicit false

namespace Introspection

structure Table (κ ν : Type) where
  entries : List (κ × ν) := []
deriving Repr

namespace Table

variable {κ ν : Type} [DecidableEq κ]

def get? (t : Table κ ν) (key : κ) : Option ν := t.entries.lookup key

def contains (t : Table κ ν) (key : κ) : Bool := (t.get? key).isSome

/-- A key that is present keeps its place. -/
def insert (t : Table κ ν) (key : κ) (value : ν) : Table κ ν :=
  if t.contains key then ⟨t.entries.map fun entry => if entry.1 = key then (key, value) else entry⟩
  else ⟨t.entries ++ [(key, value)]⟩

def insertNew (t : Table κ ν) (key : κ) (value : ν) : Table κ ν :=
  if t.contains key then t else ⟨t.entries ++ [(key, value)]⟩

/-- Gives every key of the list that is still free the same value. -/
def insertAllNew (t : Table κ ν) (keys : List κ) (value : ν) : Table κ ν :=
  keys.foldl (fun t key => t.insertNew key value) t

def keys (t : Table κ ν) : List κ := t.entries.map Prod.fst

def values (t : Table κ ν) : List ν := t.entries.map Prod.snd

def size (t : Table κ ν) : Nat := t.entries.length

theorem get?_insertNew (t : Table κ ν) (key other : κ) (value : ν) :
    (t.insertNew key value).get? other =
      (t.get? other).or (if other = key then some value else none) := by
  unfold insertNew
  split
  · next h =>
    obtain ⟨old, hold⟩ := Option.isSome_iff_exists.mp h
    by_cases hk : other = key
    · simp [hk, hold]
    · simp [hk]
  · by_cases hk : other = key
    · simp [get?, List.lookup_append, hk]
    · have hb : (other == key) = false := by simpa using hk
      simp [get?, List.lookup_append, List.lookup_cons, hk, hb]

end Table

def insertMember {α : Type} [DecidableEq α] (members : List α) (member : α) : List α :=
  if member ∈ members then members else members ++ [member]

end Introspection
