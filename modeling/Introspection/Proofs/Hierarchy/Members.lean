import Introspection.Proofs.Hierarchy.Ancestors
import Introspection.Proofs.Registry.Accepted
import Introspection.Proofs.Text.ByteOrder

set_option autoImplicit false

namespace Introspection

open Markup

namespace Registry

variable {r : Registry} {record parent a : Record}

/-- Following parents leads from the record back to it. -/
def OnCycle (r : Registry) (record : Record) : Prop := Relation.TransGen r.IsParent record record

theorem mem_lineage_parent_iff (hr : r.Indexed) (hparent : r.parentOf? record = some parent) :
    a ∈ r.lineage parent ↔ Relation.TransGen r.IsParent record a := by
  rw [mem_lineage_iff hr (parentOf?_mem hparent), Relation.TransGen.head'_iff]
  constructor
  · exact fun habove => ⟨parent, hparent, habove⟩
  · rintro ⟨other, hother, habove⟩
    have heq : parent = other := Option.some.inj (hparent.symm.trans hother)
    exact heq ▸ habove

theorem mem_ancestors_iff (hr : r.Indexed) (hrecord : record ∈ r.records) :
    a ∈ r.ancestors record ↔ Relation.TransGen r.IsParent record a ∧ a ≠ record := by
  have hnew : record ∉ r.ancestors record := (List.nodup_cons.mp (r.lineage_nodup record)).1
  have hlineage : a = record ∨ a ∈ r.ancestors record ↔ a = record ∨ Relation.TransGen r.IsParent record a := by
    rw [← List.mem_cons, ← Relation.reflTransGen_iff_eq_or_transGen]
    exact mem_lineage_iff hr hrecord
  constructor
  · intro ha
    have hne : a ≠ record := fun heq => hnew (heq ▸ ha)
    exact ⟨(hlineage.mp (Or.inr ha)).resolve_left hne, hne⟩
  · rintro ⟨habove, hne⟩
    exact (hlineage.mpr (Or.inr habove)).resolve_left hne

/-- The parent has what the ancestors declare and, on a cycle, what the record itself declares. -/
theorem hasProperty_parent_iff (hr : r.Indexed) (hrecord : record ∈ r.records)
    (hparent : r.parentOf? record = some parent) {name : String} :
    r.hasProperty parent name = true ↔ (∃ a ∈ r.ancestors record, a.declaresProperty name = true) ∨
      r.OnCycle record ∧ record.declaresProperty name = true := by
  simp only [hasProperty_iff, mem_lineage_parent_iff hr hparent, mem_ancestors_iff hr hrecord]
  constructor
  · rintro ⟨a, habove, hdeclares⟩
    by_cases heq : a = record
    · subst heq
      exact Or.inr ⟨habove, hdeclares⟩
    · exact Or.inl ⟨a, ⟨habove, heq⟩, hdeclares⟩
  · rintro (⟨a, ⟨habove, _⟩, hdeclares⟩ | ⟨hcycle, hdeclares⟩)
    · exact ⟨a, habove, hdeclares⟩
    · exact ⟨record, hcycle, hdeclares⟩

theorem declaresProperty_of_mem {p : Property} (h : p ∈ record.properties) :
    record.declaresProperty p.name = true :=
  List.any_eq_true.mpr ⟨p, h, beq_self_eq_true p.name⟩

theorem ownProperties_of_cycle (hr : r.Indexed) (hrecord : record ∈ r.records) (hcycle : r.OnCycle record) :
    r.ownProperties record = [] := by
  obtain ⟨parent, hparent, _⟩ := Relation.TransGen.head'_iff.mp hcycle
  change r.parentOf? record = some parent at hparent
  unfold ownProperties
  rw [hparent]
  refine List.filter_eq_nil_iff.mpr ?_
  intro p hp
  have hhas := (hasProperty_parent_iff hr hrecord hparent).mpr (Or.inr ⟨hcycle, declaresProperty_of_mem hp⟩)
  simp [hhas]

/-- The properties that none of the ancestors declares. -/
def underivedProperties (r : Registry) (record : Record) : List Property :=
  record.properties.filter fun p => !(r.ancestors record).any fun a => a.declaresProperty p.name

theorem ownProperties_of_no_cycle (hr : r.Indexed) (hrecord : record ∈ r.records) (hcycle : ¬ r.OnCycle record) :
    r.ownProperties record = r.underivedProperties record := by
  unfold ownProperties underivedProperties
  cases hparent : r.parentOf? record with
  | none =>
    have hnone : r.ancestors record = [] := chainFrom_of_none hparent
    simp [hnone]
  | some parent =>
    refine List.filter_congr fun p _ => congrArg not ?_
    rw [Bool.eq_iff_iff, hasProperty_parent_iff hr hrecord hparent, List.any_eq_true]
    simp [hcycle]

/-- Off the cycles of parents, a record's own properties are those that none of its ancestors declares. On a cycle it
    has none, so there the two agree only where the ancestors declare everything. -/
theorem run_ownProperties_eq_iff (ops : List Builder.Operation) :
    let r := (({} : Builder).run ops).registry
    ∀ record ∈ r.records,
      (r.ownProperties record = r.underivedProperties record ↔
        (r.OnCycle record → r.underivedProperties record = [])) ∧
      (r.OnCycle record → r.ownProperties record = []) := by
  intro r record hrecord
  have hr : r.Indexed := Reachable.indexed ⟨ops, rfl⟩
  have hnone : r.OnCycle record → r.ownProperties record = [] := ownProperties_of_cycle hr hrecord
  refine ⟨⟨?_, ?_⟩, hnone⟩
  · intro heq hcycle
    rw [← heq, hnone hcycle]
  · intro hempty
    by_cases hcycle : r.OnCycle record
    · rw [hnone hcycle, hempty hcycle]
    · exact ownProperties_of_no_cycle hr hrecord hcycle

theorem run_ownProperties_eq_iff_lasso :
    let property (name : String) : Element := { Element.named "property" with attributes := [("name", name)] }
    let named (name parent : String) (properties : List String) : Record := (Record.ofElement .objectClass
      { Element.named "class" with
        attributes := [("name", name), ("parent", parent)]
        children := properties.map property } 0).value
    let leaf := named "Leaf" "Stem" ["vein", "depth"]
    let stem := named "Stem" "Root" ["bark"]
    let root := named "Root" "Stem" ["depth"]
    let r := (({} : Builder).run
      [.register (.record leaf), .register (.record stem), .register (.record root)]).registry
    leaf ∈ r.records ∧ ¬ r.OnCycle leaf ∧ r.ownProperties leaf = r.underivedProperties leaf ∧
      (r.ownProperties leaf).map Property.name = ["vein"] ∧
      stem ∈ r.records ∧ r.OnCycle stem ∧ r.ownProperties stem = [] := by
  intro property named leaf stem root r
  have hr : r.Indexed := Reachable.indexed ⟨_, rfl⟩
  have hleaf : leaf ∈ r.records := List.mem_cons_self
  have hstem : stem ∈ r.records := List.mem_cons_of_mem leaf List.mem_cons_self
  have hoff : ¬ r.OnCycle leaf := by
    intro hcycle
    have hmem : leaf ∈ r.lineage stem := (mem_lineage_parent_iff hr rfl).mpr hcycle
    have hnames : (r.lineage stem).map Record.name = ["Stem", "Root"] := by decide +kernel
    have hname : leaf.name ∈ ["Stem", "Root"] := hnames ▸ List.mem_map.mpr ⟨leaf, hmem, rfl⟩
    exact absurd hname (by decide)
  have hon : r.OnCycle stem := .tail (.single rfl) rfl
  have hown := (run_ownProperties_eq_iff _ leaf hleaf).1.mpr fun hcycle => absurd hcycle hoff
  have hnone := (run_ownProperties_eq_iff _ stem hstem).2 hon
  exact ⟨hleaf, hoff, hown, by decide +kernel, hstem, hon, hnone⟩

/-- No ancestor of `Widget` declares its property, and still it does not count as its own. -/
theorem run_ownProperties_lost :
    let named (name parent property : String) : Record := (Record.ofElement .objectClass
      { Element.named "class" with
        attributes := [("name", name), ("parent", parent)]
        children := [{ Element.named "property" with attributes := [("name", property)] }] } 0).value
    let widget := named "Widget" "Button" "label"
    let r := (({} : Builder).run
      [.register (.record widget), .register (.record (named "Button" "Widget" "icon"))]).registry
    widget ∈ r.records ∧ (r.underivedProperties widget).map Property.name = ["label"] ∧
      r.ownProperties widget = [] ∧ r.ownProperties widget ≠ r.underivedProperties widget := by
  intro named widget r
  have hunderived : (r.underivedProperties widget).map Property.name = ["label"] := by decide +kernel
  have hnames : (r.ownProperties widget).map Property.name = [] := by decide +kernel
  have hown : r.ownProperties widget = [] := List.map_eq_nil_iff.mp hnames
  refine ⟨List.mem_cons_self, hunderived, hown, ?_⟩
  intro heq
  rw [← heq, hown] at hunderived
  exact absurd hunderived (by decide)

theorem get?_foldl_insertNew {α : Type} (name : α → String) (members : List α) (t : Table String α) (key : String) :
    (members.foldl (fun t m => t.insertNew (name m) m) t).get? key =
      (t.get? key).or (members.find? fun m => name m == key) := by
  induction members generalizing t with
  | nil => simp
  | cons m members ih =>
    rw [List.foldl_cons, ih, Table.get?_insertNew, Option.or_assoc, List.find?_cons]
    by_cases hkey : key = name m
    · simp [hkey]
    · have hother : (name m == key) = false := by simpa using Ne.symm hkey
      simp [hkey, hother]

theorem keyedBy_foldl_insertNew {α : Type} {name : α → String} (members : List α) {t : Table String α}
    (h : t.KeyedBy name) : (members.foldl (fun t m => t.insertNew (name m) m) t).KeyedBy name := by
  induction members generalizing t with
  | nil => exact h
  | cons m members ih => exact ih (h.insertNew m)

theorem mem_firstByName_iff {α : Type} {name : α → String} {members : List α} {m : α} :
    m ∈ firstByName name members ↔ (members.find? fun x => name x == name m) = some m := by
  have hkeyed := keyedBy_foldl_insertNew members (Table.KeyedBy.empty name)
  unfold firstByName
  rw [List.mem_mergeSort, hkeyed.mem_values_iff, get?_foldl_insertNew]
  rfl

theorem firstByName_increasing {α : Type} (name : α → String) (members : List α) :
    (firstByName name members).Pairwise fun m m' => name m < name m' := by
  have hkeyed := keyedBy_foldl_insertNew members (Table.KeyedBy.empty name)
  have hordered : (firstByName name members).Pairwise fun m m' => name m ≤ name m' := by
    refine (List.pairwise_mergeSort ?_ ?_ _).imp of_decide_eq_true
    · intro a b c hab hbc
      exact decide_eq_true (String.le_trans (of_decide_eq_true hab) (of_decide_eq_true hbc))
    · intro a b
      simpa using String.le_total (name a) (name b)
  have hdistinct : (firstByName name members).Pairwise fun m m' => name m ≠ name m' := by
    have hnodup : ((firstByName name members).map name).Nodup := by
      unfold firstByName
      rw [((List.mergeSort_perm _ _).map name).nodup_iff, hkeyed.map_values]
      exact hkeyed.nodup
    exact List.pairwise_map.mp hnodup
  exact (hordered.and hdistinct).imp fun h => lt_of_le_of_ne h.1 h.2

/-- The first declaration of a name in the nearest record that declares it. -/
def nearest? {α : Type} (name : α → String) (members : Record → List α) (lineage : List Record) (key : String) :
    Option α :=
  (lineage.find? fun a => (members a).any fun m => name m == key).bind fun a =>
    (members a).find? fun m => name m == key

theorem find?_flatMap_eq_nearest? {α : Type} (name : α → String) (members : Record → List α) (lineage : List Record)
    (key : String) :
    ((lineage.flatMap members).find? fun m => name m == key) = nearest? name members lineage key := by
  rw [List.find?_flatMap, nearest?]
  cases hfound : lineage.find? fun a => (members a).any fun m => name m == key with
  | none =>
    rw [Option.bind_none, List.findSome?_eq_none_iff]
    intro a ha
    have hnone := List.find?_eq_none.mp hfound a ha
    simpa using hnone
  | some a =>
    refine findSome?_of_find? hfound ?_ ?_
    · intro b hb
      simpa using hb
    · have hany := List.find?_some hfound
      simpa using hany

/-- The members of all the records: in the order of the bytes of their names, with every name that occurs once, and
    for each name the first declaration in the nearest record that declares it. -/
structure IsMemberUnion {α : Type} (name : α → String) (members : Record → List α) (lineage : List Record)
    (union : List α) : Prop where
  increasing : union.Pairwise fun m m' => Text.utf8Bytes (name m) < Text.utf8Bytes (name m')
  named_iff : ∀ key, (∃ m ∈ union, name m = key) ↔ ∃ a ∈ lineage, ∃ m ∈ members a, name m = key
  nearest : ∀ m, m ∈ union ↔ nearest? name members lineage (name m) = some m

theorem isMemberUnion_firstByName {α : Type} (name : α → String) (members : Record → List α) (lineage : List Record) :
    IsMemberUnion name members lineage (firstByName name (lineage.flatMap members)) where
  increasing := (firstByName_increasing name _).imp Text.utf8Bytes_lt_utf8Bytes
  named_iff := by
    intro key
    constructor
    · rintro ⟨m, hm, hname⟩
      have hmem := List.mem_of_find?_eq_some (mem_firstByName_iff.mp hm)
      obtain ⟨a, ha, hdeclared⟩ := List.mem_flatMap.mp hmem
      exact ⟨a, ha, m, hdeclared, hname⟩
    · rintro ⟨a, ha, m, hm, rfl⟩
      have hsome : ((lineage.flatMap members).find? fun x => name x == name m).isSome = true :=
        List.find?_isSome.mpr ⟨m, List.mem_flatMap.mpr ⟨a, ha, hm⟩, beq_self_eq_true (name m)⟩
      obtain ⟨first, hfirst⟩ := Option.isSome_iff_exists.mp hsome
      have hname : name first = name m := by simpa using List.find?_some hfirst
      refine ⟨first, mem_firstByName_iff.mpr ?_, hname⟩
      rw [hname, hfirst]
  nearest := by
    intro m
    rw [mem_firstByName_iff, find?_flatMap_eq_nearest?]

/-- All properties and all signals of a record are the union of what it and its ancestors declare, where the nearest
    declaration of a name wins; a name is that of one of the properties exactly if the record has such a property. -/
theorem inherited_members_nearest (r : Registry) (record : Record) :
    IsMemberUnion Property.name Record.properties (r.lineage record) (r.allProperties record) ∧
    (∀ name, (∃ p ∈ r.allProperties record, p.name = name) ↔ r.hasProperty record name = true) ∧
    IsMemberUnion Callable.name Record.signals (r.lineage record) (r.allSignals record) := by
  have hproperties := isMemberUnion_firstByName Property.name Record.properties (r.lineage record)
  refine ⟨hproperties, ?_, isMemberUnion_firstByName Callable.name Record.signals (r.lineage record)⟩
  intro name
  rw [hasProperty_iff]
  refine (hproperties.named_iff name).trans ?_
  simp [Record.declaresProperty]

end Registry

end Introspection
