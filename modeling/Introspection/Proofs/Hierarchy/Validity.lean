import Introspection.Proofs.Hierarchy.Chain
import Introspection.Validation

set_option autoImplicit false

namespace Introspection

namespace Registry

variable {r : Registry}

/-- The records above a record, up to one that declares no parent. -/
inductive ParentChain (r : Registry) : Record → List Record → Prop where
  | top {record : Record} (hnone : record.parent = none) : ParentChain r record []
  | up {record parent : Record} {chain : List Record} (hparent : r.parentOf? record = some parent)
      (hchain : ParentChain r parent chain) : ParentChain r record (parent :: chain)

theorem parentOf?_eq_none {record : Record} (h : record.parent = none) : r.parentOf? record = none := by
  simp [parentOf?, h]

theorem parentChain_iff {record : Record} {chain : List Record} :
    r.ParentChain record chain ↔
      List.IsChain r.IsParent (record :: chain) ∧ (chain.getLastD record).parent = none := by
  constructor
  · intro h
    induction h with
    | top hnone => exact ⟨List.isChain_singleton _, hnone⟩
    | up hparent _ ih =>
      rw [List.getLastD_cons]
      exact ⟨List.isChain_cons_cons.mpr ⟨hparent, ih.1⟩, ih.2⟩
  · rintro ⟨hchain, hlast⟩
    induction chain generalizing record with
    | nil => exact .top hlast
    | cons parent chain ih =>
      obtain ⟨hparent, hrest⟩ := List.isChain_cons_cons.mp hchain
      rw [List.getLastD_cons] at hlast
      exact .up hparent (ih hrest hlast)

namespace ParentChain

variable {record : Record} {chain : List Record}

theorem unique {other : List Record} (h : r.ParentChain record chain) (h' : r.ParentChain record other) :
    chain = other := by
  induction h generalizing other with
  | top hnone =>
    cases h' with
    | top _ => rfl
    | up hparent _ => exact absurd ((parentOf?_eq_none hnone).symm.trans hparent) (by simp)
  | up hparent _ ih =>
    cases h' with
    | top hnone => exact absurd ((parentOf?_eq_none hnone).symm.trans hparent) (by simp)
    | up hparent' hchain' =>
      have heq := Option.some.inj (hparent.symm.trans hparent')
      subst heq
      rw [ih hchain']

theorem shorter {a : Record} (h : r.ParentChain record chain) (ha : a ∈ chain) :
    ∃ rest, r.ParentChain a rest ∧ rest.length < chain.length := by
  induction h with
  | top _ => simp at ha
  | @up _ parent chain _ hchain ih =>
    obtain rfl | ha := List.mem_cons.mp ha
    · exact ⟨chain, hchain, Nat.lt_succ_self _⟩
    · obtain ⟨rest, hrest, hlt⟩ := ih ha
      exact ⟨rest, hrest, Nat.lt_succ_of_lt hlt⟩

/-- A chain that ends does not come back: the way from the same record would be shorter than itself. -/
theorem name_not_mem (h : r.ParentChain record chain) (hr : r.Indexed) (hrecord : record ∈ r.records) :
    record.name ∉ chain.map Record.name := by
  intro hmem
  obtain ⟨a, ha, hname⟩ := List.mem_map.mp hmem
  have hin : a ∈ r.records := mem_records_of_isChain (parentChain_iff.mp h).1 ha
  have heq : a = record := hr.record_unique hin hrecord hname
  subst heq
  obtain ⟨rest, hrest, hlt⟩ := h.shorter ha
  rw [h.unique hrest] at hlt
  exact Nat.lt_irrefl _ hlt

theorem names_nodup (h : r.ParentChain record chain) (hr : r.Indexed) : (chain.map Record.name).Nodup := by
  induction h with
  | top _ => exact List.nodup_nil
  | up hparent hchain ih =>
    rw [List.map_cons, List.nodup_cons]
    exact ⟨hchain.name_not_mem hr (parentOf?_mem hparent), ih⟩

theorem ancestors_eq (h : r.ParentChain record chain) (hr : r.Indexed) (hrecord : record ∈ r.records) :
    r.ancestors record = chain := by
  obtain ⟨hchain, hlast⟩ := parentChain_iff.mp h
  refine chainFrom_unique hchain (h.names_nodup hr) ?_ ?_
  · intro a ha hmem
    exact h.name_not_mem hr hrecord (List.mem_singleton.mp hmem ▸ List.mem_map_of_mem ha)
  · intro parent hparent
    exact absurd ((parentOf?_eq_none hlast).symm.trans hparent) (by simp)

end ParentChain

theorem parentFaults_eq_nil_iff {record : Record} :
    r.parentFaults record = [] ↔ record.parent = none ∨ ∃ parent, r.parentOf? record = some parent := by
  unfold parentFaults parentOf?
  cases record.parent with
  | none => simp
  | some name => cases h : r.record? name <;> simp [h]

theorem interfaceFaults_eq_nil_iff {record : Record} :
    r.interfaceFaults record = [] ↔ ∀ interface ∈ record.implements, ∃ found, r.record? interface = some found := by
  simp [interfaceFaults, Option.ne_none_iff_exists']

theorem faultsFrom_eq_nil_iff (records : List Record) :
    r.faultsFrom [] records = [] ↔
      ∀ record ∈ records, r.parentFaults record = [] ∧ r.interfaceFaults record = [] ∧ r.cycle? record = none := by
  induction records with
  | nil => simp [faultsFrom]
  | cons record rest ih =>
    rw [List.forall_mem_cons, ← ih, faultsFrom]
    cases r.cycle? record with
    | none => simp [and_assoc]
    | some path => simp

theorem ParentChain.parentFaults_eq_nil {record : Record} {chain : List Record} (h : r.ParentChain record chain) :
    r.parentFaults record = [] := by
  rw [parentFaults_eq_nil_iff]
  cases h with
  | top hnone => exact Or.inl hnone
  | up hparent _ => exact Or.inr ⟨_, hparent⟩

theorem ParentChain.cycle?_eq_none {record : Record} {chain : List Record} (h : r.ParentChain record chain)
    (hr : r.Indexed) (hrecord : record ∈ r.records) : r.cycle? record = none := by
  have hlast := (parentChain_iff.mp h).2
  have hroot : r.parentOf? (r.rootOf record) = none := by
    rw [rootOf_eq, h.ancestors_eq hr hrecord]
    exact parentOf?_eq_none hlast
  simp [cycle?, hroot]

/-- The ancestors of a record that the chain of its own parents leads back to are the rest of that chain. -/
theorem ancestors_of_return {record : Record} {chain : List Record}
    (hchain : List.IsChain r.IsParent (record :: chain)) (hnodup : ((record :: chain).map Record.name).Nodup)
    (hreturn : r.parentOf? (chain.getLastD record) = some record) : r.ancestors record = chain := by
  rw [List.map_cons, List.nodup_cons] at hnodup
  refine chainFrom_unique hchain hnodup.2 ?_ ?_
  · intro a ha hmem
    exact hnodup.1 (List.mem_singleton.mp hmem ▸ List.mem_map_of_mem ha)
  · intro parent hparent
    have heq := Option.some.inj (hreturn.symm.trans hparent)
    exact Or.inl (heq ▸ List.mem_singleton_self _)

theorem cycle?_of_return {record : Record} {chain : List Record}
    (hchain : List.IsChain r.IsParent (record :: chain)) (hnodup : ((record :: chain).map Record.name).Nodup)
    (hreturn : r.parentOf? (chain.getLastD record) = some record) : ∃ path, r.cycle? record = some path := by
  have hroot : r.parentOf? (r.rootOf record) = some record := by
    rw [rootOf_eq, ancestors_of_return hchain hnodup hreturn, hreturn]
  refine ⟨(r.lineage record).map Record.name ++ [record.name], ?_⟩
  simp [cycle?, hroot]

theorem parentChain_ancestors (hr : r.Indexed)
    (hparents : ∀ record ∈ r.records, record.parent = none ∨ ∃ parent, r.parentOf? record = some parent)
    (hcycles : ∀ record ∈ r.records, r.cycle? record = none) {record : Record} (hrecord : record ∈ r.records) :
    r.ParentChain record (r.ancestors record) := by
  have hchain := r.lineage_isChain record
  have hlast := r.getLast?_lineage record
  have hroot : r.rootOf record ∈ r.records :=
    mem_records_of_mem_lineage hrecord (List.mem_of_getLast? hlast)
  obtain hnone | ⟨parent, hparent⟩ := hparents _ hroot
  · rw [rootOf_eq] at hnone
    exact parentChain_iff.mpr ⟨hchain, hnone⟩
  · -- The chain stopped at a name that was met, so the part of it from there on is a cycle.
    obtain ⟨before, after, hsplit⟩ := List.append_of_mem (hr.parent_rootOf_mem hrecord hparent)
    have hnodup := r.lineage_names_nodup record
    rw [hsplit] at hchain hnodup hlast
    have hreturn : r.parentOf? (after.getLastD parent) = some parent := by
      rw [List.getLast?_append_cons, List.getLast?_cons, ← List.getLastD_eq_getLast?] at hlast
      rw [Option.some.inj hlast, hparent]
    rw [List.map_append] at hnodup
    obtain ⟨path, hpath⟩ := cycle?_of_return hchain.right_of_append (List.nodup_append.mp hnodup).2.1 hreturn
    exact absurd (hpath.symm.trans (hcycles parent (parentOf?_mem hparent))) (by simp)

/-- No fault is reported exactly when every interface resolves and every record is below one that declares no
    parent; the ancestors of a record are then all that is above it. -/
theorem run_hierarchyFaults_eq_nil_iff (ops : List Builder.Operation) :
    let r := (({} : Builder).run ops).registry
    (r.hierarchyFaults = [] ↔ ∀ record ∈ r.records,
      (∀ interface ∈ record.implements, ∃ found, r.record? interface = some found) ∧
      ∃ chain, r.ParentChain record chain) ∧
    (r.hierarchyFaults = [] → ∀ record ∈ r.records,
      (∀ chain, r.ParentChain record chain ↔ chain = r.ancestors record) ∧ (r.rootOf record).parent = none) := by
  intro r
  have hr : r.Indexed := Reachable.indexed ⟨ops, rfl⟩
  have hvalid : r.hierarchyFaults = [] → ∀ record ∈ r.records, r.ParentChain record (r.ancestors record) := by
    intro hnil record hrecord
    have hclean := (faultsFrom_eq_nil_iff r.records).mp hnil
    exact parentChain_ancestors hr (fun a ha => parentFaults_eq_nil_iff.mp (hclean a ha).1)
      (fun a ha => (hclean a ha).2.2) hrecord
  refine ⟨⟨?_, ?_⟩, ?_⟩
  · intro hnil record hrecord
    have hclean := (faultsFrom_eq_nil_iff r.records).mp hnil record hrecord
    exact ⟨interfaceFaults_eq_nil_iff.mp hclean.2.1, r.ancestors record, hvalid hnil record hrecord⟩
  · intro hall
    refine (faultsFrom_eq_nil_iff r.records).mpr ?_
    intro record hrecord
    obtain ⟨hinterfaces, chain, hchain⟩ := hall record hrecord
    refine ⟨hchain.parentFaults_eq_nil, interfaceFaults_eq_nil_iff.mpr hinterfaces, ?_⟩
    exact hchain.cycle?_eq_none hr hrecord
  · intro hnil record hrecord
    have hchain := hvalid hnil record hrecord
    refine ⟨fun chain => ⟨fun h => h.unique hchain, fun h => h ▸ hchain⟩, ?_⟩
    rw [rootOf_eq]
    exact (parentChain_iff.mp hchain).2

end Registry

end Introspection
