import Introspection.Hierarchy
import Introspection.Proofs.Registry.Index
import Mathlib.Data.List.Chain
import Mathlib.Data.List.Nodup

set_option autoImplicit false

namespace Introspection

namespace Registry

variable {r : Registry}

theorem mem_records_iff {record : Record} : record ∈ r.records ↔ Declaration.record record ∈ r.entities := by
  unfold records
  rw [List.mem_filterMap]
  constructor
  · rintro ⟨d, hd, hrecord⟩
    cases d with
    | record other => exact Option.some.inj hrecord ▸ hd
    | typeAlias _ | constant _ | enumeration _ | bitfield _ | callback _ => cases hrecord
  · exact fun h => ⟨_, h, rfl⟩

theorem Indexed.record_unique (h : r.Indexed) {a b : Record} (ha : a ∈ r.records) (hb : b ∈ r.records)
    (hname : a.name = b.name) : a = b := by
  obtain ⟨i, hi⟩ := List.mem_iff_getElem?.mp (mem_records_iff.mp ha)
  obtain ⟨j, hj⟩ := List.mem_iff_getElem?.mp (mem_records_iff.mp hb)
  have hij : i = j := h.position_unique hi hj hname
  subst hij
  exact Declaration.record.inj (Option.some.inj (hi.symm.trans hj))

theorem parentOf?_mem {record parent : Record} (h : r.parentOf? record = some parent) : parent ∈ r.records := by
  obtain ⟨name, _, hname⟩ := Option.bind_eq_some_iff.mp h
  exact record?_mem hname

theorem chainFrom_of_none {seen : List String} {record : Record} (h : r.parentOf? record = none) :
    r.chainFrom seen record = [] := by
  rw [chainFrom]
  split
  · rfl
  · next parent hparent => exact absurd (h.symm.trans hparent) (by simp)

theorem chainFrom_of_some {seen : List String} {record parent : Record} (h : r.parentOf? record = some parent) :
    r.chainFrom seen record =
      if parent.name ∈ seen then [] else parent :: r.chainFrom (parent.name :: seen) parent := by
  rw [chainFrom]
  split
  · next hparent => exact absurd (h.symm.trans hparent) (by simp)
  · next other hparent =>
    have heq : parent = other := Option.some.inj (h.symm.trans hparent)
    subst heq
    rfl

def IsParent (r : Registry) (record parent : Record) : Prop := r.parentOf? record = some parent

def EndsAt (r : Registry) (seen : List String) (record : Record) (chain : List Record) : Prop :=
  ∀ parent, r.parentOf? (chain.getLastD record) = some parent →
    parent.name ∈ seen ∨ parent.name ∈ chain.map Record.name

theorem chainFrom_isChain (r : Registry) (seen : List String) (record : Record) :
    List.IsChain r.IsParent (record :: r.chainFrom seen record) := by
  fun_induction chainFrom r seen record with
  | case1 => exact List.isChain_singleton _
  | case2 => exact List.isChain_singleton _
  | case3 seen record parent hparent hseen _ ih => exact List.isChain_cons_cons.mpr ⟨hparent, ih⟩

theorem chainFrom_names (r : Registry) (seen : List String) (record : Record) :
    ((r.chainFrom seen record).map Record.name).Nodup ∧ ∀ a ∈ r.chainFrom seen record, a.name ∉ seen := by
  fun_induction chainFrom r seen record with
  | case1 => simp
  | case2 => simp
  | case3 seen record parent hparent hseen _ ih =>
    obtain ⟨hnodup, hnew⟩ := ih
    constructor
    · rw [List.map_cons, List.nodup_cons]
      refine ⟨?_, hnodup⟩
      intro hmem
      obtain ⟨a, ha, hname⟩ := List.mem_map.mp hmem
      exact hnew a ha (hname ▸ List.mem_cons_self)
    · intro a ha
      obtain rfl | ha := List.mem_cons.mp ha
      · exact hseen
      · exact fun hmem => hnew a ha (List.mem_cons_of_mem parent.name hmem)

theorem chainFrom_endsAt (r : Registry) (seen : List String) (record : Record) :
    r.EndsAt seen record (r.chainFrom seen record) := by
  fun_induction chainFrom r seen record with
  | case1 seen record hparent =>
    intro parent h
    exact absurd (hparent.symm.trans h) (by simp)
  | case2 seen record parent hparent hseen =>
    intro other h
    exact Or.inl (Option.some.inj (hparent.symm.trans h) ▸ hseen)
  | case3 seen record parent hparent hseen _ ih =>
    intro next h
    rw [List.getLastD_cons] at h
    obtain hmem | hmem := ih next h
    · obtain heq | hmem := List.mem_cons.mp hmem
      · exact Or.inr (List.mem_cons.mpr (Or.inl heq))
      · exact Or.inl hmem
    · exact Or.inr (List.mem_cons_of_mem parent.name hmem)

/-- A list with the properties of `chainFrom` is what it lists. -/
theorem chainFrom_unique {seen : List String} {record : Record} {chain : List Record}
    (hchain : List.IsChain r.IsParent (record :: chain)) (hnodup : (chain.map Record.name).Nodup)
    (hnew : ∀ a ∈ chain, a.name ∉ seen) (hends : r.EndsAt seen record chain) :
    r.chainFrom seen record = chain := by
  induction chain generalizing seen record with
  | nil =>
    cases hparent : r.parentOf? record with
    | none => exact chainFrom_of_none hparent
    | some parent =>
      have hseen : parent.name ∈ seen := (hends parent hparent).elim id (by simp)
      rw [chainFrom_of_some hparent, if_pos hseen]
  | cons next chain ih =>
    obtain ⟨hparent, hrest⟩ := List.isChain_cons_cons.mp hchain
    rw [List.map_cons, List.nodup_cons] at hnodup
    rw [chainFrom_of_some hparent, if_neg (hnew next List.mem_cons_self)]
    congr 1
    apply ih hrest hnodup.2
    · intro a ha hmem
      obtain heq | hmem := List.mem_cons.mp hmem
      · exact hnodup.1 (heq ▸ List.mem_map_of_mem ha)
      · exact hnew a (List.mem_cons_of_mem next ha) hmem
    · intro parent h
      rw [← List.getLastD_cons (a := record)] at h
      obtain hmem | hmem := hends parent h
      · exact Or.inl (List.mem_cons_of_mem next.name hmem)
      · obtain heq | hmem := List.mem_cons.mp hmem
        · exact Or.inl (heq ▸ List.mem_cons_self)
        · exact Or.inr hmem

theorem mem_records_of_isChain {record a : Record} {chain : List Record}
    (hchain : List.IsChain r.IsParent (record :: chain)) (ha : a ∈ chain) : a ∈ r.records := by
  induction chain generalizing record with
  | nil => simp at ha
  | cons next chain ih =>
    obtain ⟨hparent, hrest⟩ := List.isChain_cons_cons.mp hchain
    obtain rfl | ha := List.mem_cons.mp ha
    · exact parentOf?_mem hparent
    · exact ih hrest ha

theorem lineage_isChain (r : Registry) (record : Record) : List.IsChain r.IsParent (r.lineage record) :=
  r.chainFrom_isChain [record.name] record

theorem lineage_names_nodup (r : Registry) (record : Record) : ((r.lineage record).map Record.name).Nodup := by
  obtain ⟨hnodup, hnew⟩ := r.chainFrom_names [record.name] record
  rw [lineage, List.map_cons, List.nodup_cons]
  refine ⟨?_, hnodup⟩
  intro hmem
  obtain ⟨a, ha, hname⟩ := List.mem_map.mp hmem
  exact hnew a ha (List.mem_singleton.mpr hname)

theorem lineage_nodup (r : Registry) (record : Record) : (r.lineage record).Nodup :=
  List.Nodup.of_map Record.name (r.lineage_names_nodup record)

theorem mem_records_of_mem_lineage {record a : Record} (hrecord : record ∈ r.records)
    (ha : a ∈ r.lineage record) : a ∈ r.records := by
  obtain rfl | ha := List.mem_cons.mp ha
  · exact hrecord
  · exact mem_records_of_isChain (r.lineage_isChain record) ha

theorem rootOf_eq (r : Registry) (record : Record) : r.rootOf record = (r.ancestors record).getLastD record :=
  List.getLastD_eq_getLast?.symm

theorem getLast?_lineage (r : Registry) (record : Record) :
    (r.lineage record).getLast? = some (r.rootOf record) :=
  List.getLast?_cons

/-- A parent above the last ancestor has been met on the way. -/
theorem parent_rootOf_met {record parent : Record} (h : r.parentOf? (r.rootOf record) = some parent) :
    ∃ a ∈ r.lineage record, a.name = parent.name := by
  rw [rootOf_eq] at h
  obtain hname | hname := r.chainFrom_endsAt [record.name] record parent h
  · exact ⟨record, List.mem_cons_self, (List.mem_singleton.mp hname).symm⟩
  · obtain ⟨a, ha, hname⟩ := List.mem_map.mp hname
    exact ⟨a, List.mem_cons_of_mem record ha, hname⟩

theorem Indexed.parent_rootOf_mem (hr : r.Indexed) {record parent : Record} (hrecord : record ∈ r.records)
    (h : r.parentOf? (r.rootOf record) = some parent) : parent ∈ r.lineage record := by
  obtain ⟨a, ha, hname⟩ := parent_rootOf_met h
  have hin : a ∈ r.records := mem_records_of_mem_lineage hrecord ha
  exact hr.record_unique hin (parentOf?_mem h) hname ▸ ha

end Registry

end Introspection
