import Introspection.Proofs.Registry.Index

set_option autoImplicit false

namespace Introspection

theorem findSome?_of_find? {α β : Type} {p : α → Bool} {f : α → Option β} {xs : List α} {x : α}
    (h : xs.find? p = some x) (hother : ∀ y, p y = false → f y = none) (hx : (f x).isSome = true) :
    xs.findSome? f = f x := by
  obtain ⟨_, before, after, hsplit, hbefore⟩ := List.find?_eq_some_iff_append.mp h
  have hnone : before.findSome? f = none := by
    rw [List.findSome?_eq_none_iff]
    exact fun y hy => hother y (by simpa using hbefore y hy)
  rw [hsplit, List.findSome?_append, hnone, Option.none_or, List.findSome?_cons_of_isSome hx]

namespace Builder

def accepted (b : Builder) : List Operation → List (Option String × Declaration)
  | [] => []
  | op :: ops => b.acceptedBy op ++ (b.apply op).accepted ops

theorem accepted_append (b : Builder) (ops later : List Operation) :
    b.accepted (ops ++ later) = b.accepted ops ++ (b.run ops).accepted later := by
  induction ops generalizing b with
  | nil => rfl
  | cons op ops ih =>
    rw [List.cons_append, accepted, accepted, ih, List.append_assoc]
    rfl

theorem accepted_concat (b : Builder) (ops : List Operation) (op : Operation) :
    b.accepted (ops ++ [op]) = b.accepted ops ++ (b.run ops).acceptedBy op := by
  rw [accepted_append]
  simp [accepted]

theorem run_entities (ops : List Operation) :
    (({} : Builder).run ops).registry.entities = (({} : Builder).accepted ops).map Prod.snd := by
  induction ops using List.reverseRecOn with
  | nil => rfl
  | append_singleton ops op ih =>
    rw [run_concat, accepted_concat, List.map_append, ← ih]
    obtain ⟨hnone, ws, hws⟩ | ⟨d, _, hd, _, haccept⟩ := (({} : Builder).run ops).apply_cases op
    · rw [hnone, hws]
      simp
    · rw [hd, haccept]
      simp

/-- A view of the registry that each declaration fills only while it is empty shows what the first declaration
    brought that brings anything. -/
theorem run_first {γ : Type} {V : Registry → Option γ} {brings : Option String × Declaration → Option γ}
    (hstart : V {} = none) (hwarn : ∀ r ws, V { r with warnings := r.warnings ++ ws } = V r)
    (haccept : ∀ r space d, r.Reachable → V (r.accept space d) = (V r).or (brings (space, d)))
    (ops : List Operation) :
    V (({} : Builder).run ops).registry = (({} : Builder).accepted ops).findSome? brings := by
  induction ops using List.reverseRecOn with
  | nil => exact hstart
  | append_singleton ops op ih =>
    rw [run_concat, accepted_concat, List.findSome?_append, ← ih]
    obtain ⟨hnone, ws, hws⟩ | ⟨d, _, hd, _, hregistry⟩ := (({} : Builder).run ops).apply_cases op
    · rw [hnone, hws, hwarn]
      simp
    · rw [hd, hregistry, haccept _ _ _ ⟨ops, rfl⟩]
      simp

theorem length_accepted (ops : List Operation) :
    (({} : Builder).accepted ops).length = (({} : Builder).run ops).registry.size := by
  rw [Registry.size, run_entities, List.length_map]

/-- What is registered at a position is what is accepted there. -/
theorem registers_iff (ops : List Operation) {space : Option String} {d : Declaration} {id : Nat} :
    ({} : Builder).Registers ops space d id ↔ (({} : Builder).accepted ops)[id]? = some (space, d) := by
  constructor
  · rintro ⟨before, after, rfl, rfl, hid⟩
    cases hindex : (({} : Builder).run before).registry.index.get? d.name with
    | some position => simp [register_taken hindex] at hid
    | none =>
      have hlength : (({} : Builder).accepted before).length = id := by
        rw [register_free hindex] at hid
        exact (length_accepted before).trans (Option.some.inj hid)
      rw [accepted_append, accepted, acceptedBy_free hindex, ← hlength]
      simp
  · intro h
    induction ops using List.reverseRecOn with
    | nil => cases h
    | append_singleton ops op ih =>
      rw [accepted_concat] at h
      by_cases hlt : id < (({} : Builder).accepted ops).length
      · rw [List.getElem?_append_left hlt] at h
        exact (ih h).append [op]
      · rw [List.getElem?_append_right (Nat.le_of_not_lt hlt)] at h
        obtain ⟨hnone, _⟩ | ⟨e, rfl, he, hfree, _⟩ := (({} : Builder).run ops).apply_cases op
        · simp [hnone] at h
        · rw [he] at h
          have hid : id = (({} : Builder).run ops).registry.size := by
            have hlast := (List.getElem?_eq_some_iff.mp h).1
            rw [List.length_singleton, length_accepted] at hlast
            rw [length_accepted] at hlt
            omega
          obtain ⟨rfl, rfl⟩ := Prod.mk.inj (List.mem_singleton.mp (List.mem_of_getElem? h))
          exact hid ▸ registers_concat hfree

theorem run_lookup?_accepted (ops : List Operation) {name : String} {d : Declaration}
    (h : (({} : Builder).run ops).registry.lookup? name = some d) :
    ∃ space, (space, d) ∈ ({} : Builder).accepted ops ∧ name ∈ Registry.namesWithin space d.name := by
  obtain ⟨id, hid, hget⟩ := Option.bind_eq_some_iff.mp h
  obtain hindex | ⟨_, hqualified⟩ := Option.or_eq_some_iff.mp hid
  · have hindexed : (({} : Builder).run ops).registry.Indexed := Registry.Reachable.indexed ⟨ops, rfl⟩
    obtain ⟨e, he, hname⟩ := (hindexed name id).mp hindex
    have hde : e = d := Option.some.inj (he.symm.trans hget)
    have hmem : d ∈ (({} : Builder).accepted ops).map Prod.snd := run_entities ops ▸ Registry.get?_mem hget
    obtain ⟨⟨space, e'⟩, hpair, rfl⟩ := List.mem_map.mp hmem
    refine ⟨space, hpair, ?_⟩
    rw [← hname, hde]
    cases space <;> simp [Registry.namesWithin]
  · obtain ⟨space, e, hreg, he, hname⟩ := run_qualified ops (Table.mem_entries_of_get? hqualified)
    have hde : e = d := Option.some.inj (he.symm.trans hget)
    subst hde
    refine ⟨some space, List.mem_of_getElem? ((registers_iff ops).mp hreg), ?_⟩
    simp [Registry.namesWithin, hname]

end Builder

end Introspection
