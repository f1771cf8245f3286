import Introspection.Proofs.Hierarchy.Chain
import Mathlib.Data.List.Perm.Subperm

set_option autoImplicit false

namespace Introspection

open Markup

namespace Registry

variable {r : Registry} {record a b : Record} {chain : List Record}

/-- Each is the parent of the one before, no name is met twice, and the next parent is missing or has been met. -/
structure IsMaximalChain (r : Registry) (record : Record) (chain : List Record) : Prop where
  parents : List.IsChain r.IsParent (record :: chain)
  names_nodup : ((record :: chain).map Record.name).Nodup
  ends : ∀ parent, r.parentOf? (chain.getLastD record) = some parent →
    parent.name ∈ (record :: chain).map Record.name

theorem isMaximalChain_ancestors (r : Registry) (record : Record) :
    r.IsMaximalChain record (r.ancestors record) where
  parents := r.lineage_isChain record
  names_nodup := r.lineage_names_nodup record
  ends := by
    intro parent hparent
    rcases r.chainFrom_endsAt [record.name] record parent hparent with hname | hname
    · exact List.mem_cons.mpr (Or.inl (List.mem_singleton.mp hname))
    · exact List.mem_cons_of_mem record.name hname

theorem isMaximalChain_iff : r.IsMaximalChain record chain ↔ chain = r.ancestors record := by
  constructor
  · rintro ⟨hparents, hnames, hends⟩
    rw [List.map_cons, List.nodup_cons] at hnames
    symm
    apply chainFrom_unique hparents hnames.2
    · intro a ha hname
      exact hnames.1 (List.mem_map.mpr ⟨a, ha, List.mem_singleton.mp hname⟩)
    · intro parent hparent
      rcases List.mem_cons.mp (hends parent hparent) with hname | hname
      · exact Or.inl (List.mem_singleton.mpr hname)
      · exact Or.inr hname
  · rintro rfl
    exact r.isMaximalChain_ancestors record

theorem length_ancestors_lt (hrecord : record ∈ r.records) : (r.ancestors record).length < r.records.length := by
  have hsubset : r.lineage record ⊆ r.records := fun a ha => mem_records_of_mem_lineage hrecord ha
  have hlength : (r.ancestors record).length + 1 ≤ r.records.length :=
    (List.subperm_of_subset (r.lineage_nodup record) hsubset).length_le
  omega

structure Walk where
  upcoming : Option Record
  met : List String

def walkFrom (r : Registry) (record : Record) : Walk := ⟨r.parentOf? record, [record.name]⟩

/-- The walk ends where nothing is next or the next name has been met. -/
def step? (r : Registry) (w : Walk) : Option (Record × Walk) :=
  match w.upcoming with
  | none => none
  | some current =>
    if current.name ∈ w.met then none else some (current, ⟨r.parentOf? current, current.name :: w.met⟩)

/-- The walk comes to these records in turn and has ended then. -/
inductive Yields (r : Registry) : Walk → List Record → Prop where
  | ended {w : Walk} (hended : r.step? w = none) : Yields r w []
  | step {w next : Walk} {current : Record} {rest : List Record} (hstep : r.step? w = some (current, next))
      (hrest : Yields r next rest) : Yields r w (current :: rest)

theorem Yields.unique {w : Walk} {other : List Record} (h : r.Yields w chain) (h' : r.Yields w other) :
    chain = other := by
  induction h generalizing other with
  | ended hended =>
    cases h' with
    | ended _ => rfl
    | step hstep _ => exact absurd (hended.symm.trans hstep) (by simp)
  | step hstep _ ih =>
    cases h' with
    | ended hended => exact absurd (hended.symm.trans hstep) (by simp)
    | step hstep' hrest' =>
      obtain ⟨rfl, rfl⟩ := Prod.mk.inj (Option.some.inj (hstep.symm.trans hstep'))
      rw [ih hrest']

theorem yields_chainFrom (r : Registry) (met : List String) (record : Record) :
    r.Yields ⟨r.parentOf? record, met⟩ (r.chainFrom met record) := by
  fun_induction chainFrom r met record with
  | case1 met record hparent => exact .ended (by simp [step?, hparent])
  | case2 met record parent hparent hmet => exact .ended (by simp [step?, hparent, hmet])
  | case3 met record parent hparent hmet _ ih => exact .step (by simp [step?, hparent, hmet]) ih

theorem yields_iff : r.Yields (r.walkFrom record) chain ↔ chain = r.ancestors record := by
  have hancestors : r.Yields (r.walkFrom record) (r.ancestors record) := r.yields_chainFrom [record.name] record
  constructor
  · exact fun h => h.unique hancestors
  · rintro rfl
    exact hancestors

/-- The walk up from a record ends in every hierarchy, cyclic ones included, and yields the ancestors. They are the one
    chain that follows parents without meeting a name twice and stops only where it must, shorter than the list of
    all records. -/
theorem run_ancestors_maximal (ops : List Builder.Operation) :
    let r := (({} : Builder).run ops).registry
    ∀ record ∈ r.records,
      (∀ chain, r.Yields (r.walkFrom record) chain ↔ chain = r.ancestors record) ∧
      (∀ chain, r.IsMaximalChain record chain ↔ chain = r.ancestors record) ∧
      (r.ancestors record).length < r.records.length := by
  intro r record hrecord
  exact ⟨fun chain => yields_iff, fun chain => isMaximalChain_iff, length_ancestors_lt hrecord⟩

theorem run_ancestors_maximal_lasso :
    let named (name parent : String) : Record := (Record.ofElement .objectClass
      { Element.named "class" with attributes := [("name", name), ("parent", parent)] } 0).value
    let leaf := named "Leaf" "Stem"
    let stem := named "Stem" "Root"
    let root := named "Root" "Stem"
    let r := (({} : Builder).run
      [.register (.record leaf), .register (.record stem), .register (.record root)]).registry
    leaf ∈ r.records ∧ r.IsMaximalChain leaf [stem, root] ∧ r.Yields (r.walkFrom leaf) [stem, root] ∧
      (r.ancestors leaf).length < r.records.length := by
  intro named leaf stem root r
  have hleaf : leaf ∈ r.records := List.mem_cons_self
  have hchain : r.IsMaximalChain leaf [stem, root] := by
    refine ⟨?_, by decide, ?_⟩
    · exact List.isChain_cons_cons.mpr ⟨rfl, List.isChain_cons_cons.mpr ⟨rfl, List.isChain_singleton _⟩⟩
    · intro parent hparent
      have hstem : stem = parent := Option.some.inj hparent
      subst hstem
      decide
  obtain ⟨hyields, hmaximal, hshorter⟩ := run_ancestors_maximal _ leaf hleaf
  exact ⟨hleaf, hchain, (hyields _).mpr ((hmaximal _).mp hchain), hshorter⟩

theorem reflTransGen_of_mem_lineage (ha : a ∈ r.lineage record) : Relation.ReflTransGen r.IsParent record a :=
  List.IsChain.induction (Relation.ReflTransGen r.IsParent record) _ (r.lineage_isChain record)
    (fun _ _ hparent hbelow => hbelow.tail hparent) (fun _ => .refl) a ha

theorem parent_mem_lineage (hr : r.Indexed) (hrecord : record ∈ r.records) (ha : a ∈ r.lineage record)
    (hparent : r.parentOf? a = some b) : b ∈ r.lineage record := by
  obtain ⟨before, after, hsplit⟩ := List.append_of_mem ha
  cases after with
  | nil =>
    have hroot : r.rootOf record = a := by
      have hlast := r.getLast?_lineage record
      rw [hsplit, List.getLast?_append_cons, List.getLast?_singleton] at hlast
      exact (Option.some.inj hlast).symm
    rw [← hroot] at hparent
    exact hr.parent_rootOf_mem hrecord hparent
  | cons next after =>
    have hchain := r.lineage_isChain record
    rw [hsplit] at hchain
    have hnext : r.parentOf? a = some next := (List.isChain_cons_cons.mp hchain.right_of_append).1
    have heq : next = b := Option.some.inj (hnext.symm.trans hparent)
    rw [hsplit, ← heq]
    simp

theorem mem_lineage_iff (hr : r.Indexed) (hrecord : record ∈ r.records) :
    a ∈ r.lineage record ↔ Relation.ReflTransGen r.IsParent record a := by
  constructor
  · exact reflTransGen_of_mem_lineage
  · intro h
    induction h with
    | refl => exact List.mem_cons_self
    | tail _ hparent ih => exact parent_mem_lineage hr hrecord ih hparent

theorem lineage_subset (hr : r.Indexed) (hrecord : record ∈ r.records) (ha : a ∈ r.lineage record) :
    r.lineage a ⊆ r.lineage record := by
  intro b hb
  rw [mem_lineage_iff hr hrecord] at ha ⊢
  exact ha.trans (reflTransGen_of_mem_lineage hb)

theorem hasProperty_iff {name : String} :
    r.hasProperty record name = true ↔ ∃ a ∈ r.lineage record, a.declaresProperty name = true := by
  simp [hasProperty, lineage]

theorem isInstanceInHierarchy_iff {s : Slot} :
    r.isInstanceInHierarchy s record = true ↔ ∃ a ∈ r.lineage record, isInstanceOf s a = true :=
  List.any_eq_true

/-- What is above an ancestor is above the record, even if the two chains are cut at different points of a cycle. So a
    record has the properties of its ancestors, and a value that can be an instance of an ancestor can be one of it. -/
theorem run_inheritance_transitive (ops : List Builder.Operation) :
    let r := (({} : Builder).run ops).registry
    ∀ d ∈ r.records, ∀ a ∈ r.ancestors d,
      (∀ b ∈ r.ancestors a, b = d ∨ b ∈ r.ancestors d) ∧
      (∀ name, r.hasProperty a name = true → r.hasProperty d name = true) ∧
      ∀ s : Slot, r.isInstanceInHierarchy s a = true → r.isInstanceInHierarchy s d = true := by
  intro r d hd a ha
  have hr : r.Indexed := Reachable.indexed ⟨ops, rfl⟩
  have hsubset : r.lineage a ⊆ r.lineage d := lineage_subset hr hd (List.mem_cons_of_mem d ha)
  refine ⟨?_, ?_, ?_⟩
  · intro b hb
    exact List.mem_cons.mp (hsubset (List.mem_cons_of_mem a hb))
  · intro name hname
    obtain ⟨b, hb, hdeclares⟩ := hasProperty_iff.mp hname
    exact hasProperty_iff.mpr ⟨b, hsubset hb, hdeclares⟩
  · intro s hs
    obtain ⟨b, hb, hinstance⟩ := isInstanceInHierarchy_iff.mp hs
    exact isInstanceInHierarchy_iff.mpr ⟨b, hsubset hb, hinstance⟩

theorem run_inheritance_transitive_lasso :
    let named (name parent property : String) : Record := (Record.ofElement .objectClass
      { Element.named "class" with
        attributes := [("name", name), ("parent", parent)]
        children := [{ Element.named "property" with attributes := [("name", property)] }] } 0).value
    let leaf := named "Leaf" "Stem" "vein"
    let stem := named "Stem" "Root" "bark"
    let root := named "Root" "Stem" "depth"
    let r := (({} : Builder).run
      [.register (.record leaf), .register (.record stem), .register (.record root)]).registry
    leaf ∈ r.records ∧ root ∈ r.ancestors leaf ∧ (∀ b ∈ r.ancestors root, b = leaf ∨ b ∈ r.ancestors leaf) ∧
      root.declaresProperty "bark" = false ∧ r.hasProperty root "bark" = true ∧ r.hasProperty leaf "bark" = true := by
  intro named leaf stem root r
  have hleaf : leaf ∈ r.records := List.mem_cons_self
  have hlineage : root ∈ r.lineage leaf :=
    (mem_lineage_iff (Reachable.indexed ⟨_, rfl⟩) hleaf).mpr (.tail (.single rfl) rfl)
  have hother : root ≠ leaf := fun heq => absurd (congrArg Record.name heq) (by decide)
  have hroot : root ∈ r.ancestors leaf := (List.mem_cons.mp hlineage).resolve_left hother
  have hbark : r.hasProperty root "bark" = true := by decide +kernel
  obtain ⟨habove, hproperty, _⟩ := run_inheritance_transitive _ leaf hleaf root hroot
  exact ⟨hleaf, hroot, habove, by decide, hbark, hproperty "bark" hbark⟩

end Registry

end Introspection
