import Introspection.Proofs.Registry.Step
import Mathlib.Data.List.Induction

set_option autoImplicit false

namespace Introspection

theorem qualify_inj {space other name name' : String} (hname : '.' ∉ name.toList) (hname' : '.' ∉ name'.toList)
    (h : qualify space name = qualify other name') : space = other ∧ name = name' := by
  have hdot : ".".toList = ['.'] := by decide
  have hchars : space.toList ++ '.' :: name.toList = other.toList ++ '.' :: name'.toList := by
    have := congrArg String.toList h
    simpa [qualify, hdot] using this
  obtain ⟨between, hother, hrest⟩ | ⟨between, hspace, hrest⟩ := List.append_eq_append_iff.mp hchars
  · cases between with
    | nil =>
      simp only [List.nil_append, List.cons.injEq, true_and] at hrest
      exact ⟨String.toList_inj.mp (by simpa using hother.symm), String.toList_inj.mp hrest⟩
    | cons c between =>
      have hlater : name.toList = between ++ '.' :: name'.toList := (List.cons.inj hrest).2
      exact absurd (by simp [hlater]) hname
  · cases between with
    | nil =>
      simp only [List.nil_append, List.cons.injEq, true_and] at hrest
      exact ⟨String.toList_inj.mp (by simpa using hspace), String.toList_inj.mp hrest.symm⟩
    | cons c between =>
      have hlater : name'.toList = between ++ '.' :: name.toList := (List.cons.inj hrest).2
      exact absurd (by simp [hlater]) hname'

namespace Registry

/-- The index leads from a name to a position exactly when a declaration of that name is stored there. -/
def Indexed (r : Registry) : Prop :=
  ∀ name id, r.index.get? name = some id ↔ ∃ d, r.get? id = some d ∧ d.name = name

theorem get?_eq_none_of_size_le {r : Registry} {id : Nat} (h : r.size ≤ id) : r.get? id = none :=
  List.getElem?_eq_none h

theorem lt_size_of_get? {r : Registry} {id : Nat} {d : Declaration} (h : r.get? id = some d) : id < r.size :=
  (List.getElem?_eq_some_iff.mp h).1

theorem accept_get? (r : Registry) (space : Option String) (d : Declaration) (id : Nat) :
    (r.accept space d).get? id = if id = r.size then some d else r.get? id := by
  change (r.accept space d).entities[id]? = _
  rw [accept_entities, List.getElem?_append]
  by_cases hlt : id < r.entities.length
  · have hne : id ≠ r.size := Nat.ne_of_lt hlt
    simp [hlt, hne, get?]
  · by_cases heq : id = r.size
    · subst heq
      simp [size]
    · have hgt : r.size < id := Nat.lt_of_le_of_ne (Nat.le_of_not_lt hlt) (Ne.symm heq)
      have hpast : 1 ≤ id - r.entities.length := Nat.le_sub_of_add_le' hgt
      rw [if_neg hlt, if_neg heq, get?_eq_none_of_size_le (Nat.le_of_lt hgt)]
      exact List.getElem?_eq_none hpast

theorem indexed_empty : Indexed {} := by
  intro name id
  simp [get?, Table.get?]

theorem Indexed.withWarnings {r : Registry} (h : r.Indexed) (ws : List Warning) :
    Indexed { r with warnings := ws } := h

theorem Indexed.accept {r : Registry} (h : r.Indexed) (space : Option String) {d : Declaration}
    (hfree : r.index.get? d.name = none) : (r.accept space d).Indexed := by
  intro name id
  rw [accept_index, Table.get?_insert, accept_get?]
  by_cases hid : id = r.size
  · -- The new position: no older name leads there, since nothing was stored there.
    have hold : r.index.get? name ≠ some id := by
      intro hname
      obtain ⟨e, he, _⟩ := (h name id).mp hname
      exact absurd (lt_size_of_get? he) (by omega)
    by_cases hname : name = d.name
    · simp [hid, hname]
    · have hname' : ¬ d.name = name := fun heq => hname heq.symm
      simp [hid, hname, hname', hid ▸ hold]
  · rw [if_neg hid, ← h name id]
    by_cases hname : name = d.name
    · simp [hname, hfree, Ne.symm hid]
    · simp [hname]

theorem Reachable.indexed {r : Registry} (h : r.Reachable) : r.Indexed :=
  h.induction indexed_empty (fun _ _ hr => hr.withWarnings _) (fun _ space _ hfree hr => hr.accept space hfree)

namespace Indexed

variable {r : Registry}

theorem position_unique (h : r.Indexed) {i j : Nat} {d e : Declaration} (hi : r.get? i = some d)
    (hj : r.get? j = some e) (hname : d.name = e.name) : i = j := by
  have hd := (h d.name i).mpr ⟨d, hi, rfl⟩
  have he := (h d.name j).mpr ⟨e, hj, hname.symm⟩
  exact Option.some.inj (hd.symm.trans he)

theorem names_nodup (h : r.Indexed) : (r.entities.map Declaration.name).Nodup := by
  rw [List.Nodup, List.pairwise_map, List.pairwise_iff_getElem]
  intro i j hi hj hij hname
  have hpos := h.position_unique (List.getElem?_eq_getElem hi) (List.getElem?_eq_getElem hj) hname
  omega

theorem record_names_nodup (h : r.Indexed) : (r.records.map Record.name).Nodup := by
  have hnames := h.names_nodup
  rw [List.Nodup, List.pairwise_map] at hnames ⊢
  refine List.pairwise_filterMap.mpr (hnames.imp ?_)
  intro d e hne a ha b hb
  cases d with
  | record _ =>
    cases e with
    | record _ =>
      cases ha
      cases hb
      exact hne
    | typeAlias _ | constant _ | enumeration _ | bitfield _ | callback _ => cases hb
  | typeAlias _ | constant _ | enumeration _ | bitfield _ | callback _ => cases ha

end Indexed

theorem mem_accept_qualified {r : Registry} {space : Option String} {d : Declaration} {key : String} {id : Nat}
    (h : (key, id) ∈ (r.accept space d).qualified.entries) :
    (key, id) ∈ r.qualified.entries ∨ ∃ name, space = some name ∧ key = qualify name d.name ∧ id = r.size := by
  cases space with
  | none =>
    rw [accept_qualified_none] at h
    exact Or.inl h
  | some name =>
    rw [accept_qualified_some] at h
    obtain hold | hnew := Table.mem_entries_insertNew h
    · exact Or.inl hold
    · obtain ⟨hkey, hid⟩ := Prod.mk.inj hnew
      exact Or.inr ⟨name, rfl, hkey, hid⟩

end Registry

namespace Builder

/-- Where a qualified name leads: to a declaration that was registered within the namespace it names. -/
theorem run_qualified (ops : List Operation) {key : String} {id : Nat}
    (h : (key, id) ∈ (({} : Builder).run ops).registry.qualified.entries) :
    ∃ space d, ({} : Builder).Registers ops (some space) d id ∧
      (({} : Builder).run ops).registry.get? id = some d ∧ key = qualify space d.name := by
  induction ops using List.reverseRecOn with
  | nil => simp [run] at h
  | append_singleton ops op ih =>
    rw [run_concat] at h ⊢
    obtain ⟨ws, hws⟩ | ⟨d, rfl, hfree, hd⟩ := (({} : Builder).run ops).apply_registry_cases op
    · rw [hws] at h ⊢
      obtain ⟨space, d, hreg, hget, hkey⟩ := ih h
      exact ⟨space, d, hreg.append [op], hget, hkey⟩
    · rw [hd] at h ⊢
      obtain hold | ⟨space, hspace, hkey, hid⟩ := Registry.mem_accept_qualified h
      · obtain ⟨space, e, hreg, hget, hkey⟩ := ih hold
        refine ⟨space, e, hreg.append _, ?_, hkey⟩
        rw [Registry.accept_get?, if_neg (Nat.ne_of_lt (Registry.lt_size_of_get? hget)), hget]
      · have hreg := registers_concat hfree
        rw [hspace, ← hid] at hreg
        exact ⟨space, d, hreg, by rw [Registry.accept_get?, if_pos hid], hkey⟩

theorem register_position (b : Builder) (d : Declaration) :
    (b.register d).2 = if b.registry.index.contains d.name then none else some b.registry.size := by
  cases h : b.registry.index.get? d.name with
  | some id => simp [register_taken h, Table.contains, h]
  | none => simp [register_free h, Table.contains, h]

/-- The index and the stored declarations after any operations: names and positions determine each other, a
    qualified name leads to a declaration from the namespace it names, nothing that resolves is missing, and the
    next declaration goes to the next position unless its name is taken. -/
theorem run_names_positions (ops : List Operation) :
    let b := ({} : Builder).run ops
    let r := b.registry
    (∀ name id, r.index.get? name = some id ↔ ∃ d, r.get? id = some d ∧ d.name = name) ∧
    (r.entities.map Declaration.name).Nodup ∧
    (∀ key id, (key, id) ∈ r.qualified.entries → id < r.size ∧
      ∃ space d, ({} : Builder).Registers ops (some space) d id ∧ r.get? id = some d ∧
        key = space ++ "." ++ d.name) ∧
    (∀ name id, r.idOf? name = some id → ∃ d, r.get? id = some d) ∧
    (∀ d, (b.register d).2 = if r.index.contains d.name then none else some r.size) := by
  intro b r
  have hindexed : r.Indexed := Registry.Reachable.indexed ⟨ops, rfl⟩
  refine ⟨hindexed, hindexed.names_nodup, ?_, ?_, b.register_position⟩
  · intro key id hkey
    obtain ⟨space, d, hreg, hget, hname⟩ := run_qualified ops hkey
    exact ⟨Registry.lt_size_of_get? hget, space, d, hreg, hget, hname⟩
  · intro name id hid
    obtain hindex | ⟨_, hqualified⟩ := Option.or_eq_some_iff.mp hid
    · obtain ⟨d, hget, _⟩ := (hindexed name id).mp hindex
      exact ⟨d, hget⟩
    · obtain ⟨_, d, _, hget, _⟩ := run_qualified ops (Table.mem_entries_of_get? hqualified)
      exact ⟨d, hget⟩

end Builder

end Introspection
