import Introspection.Proofs.Registry.Accepted

/-!
The sets of names beside the index. Each accepted declaration adds its names to the set of its kind, alone and within its
namespace, and nothing takes a name out again. As long as no declaration has a dot in its name, a name resolves to a
declaration exactly if that declaration was accepted with it, so the sets of enumerations and records can stand in for
look-up. The set of bitfields holds raw and symbolic names too, and there only one direction is left.
-/

set_option autoImplicit false

namespace Introspection

open Markup

namespace Registry

def namesOfKind {α : Type} (pick : Declaration → Option α) : Option String × Declaration → List String
  | (space, d) => if (pick d).isSome then namesWithin space d.name else []

theorem mem_namesOfKind_iff {α : Type} {pick : Declaration → Option α} {space : Option String} {d : Declaration}
    {name : String} :
    name ∈ namesOfKind pick (space, d) ↔ (∃ x, pick d = some x) ∧ name ∈ namesWithin space d.name := by
  unfold namesOfKind
  cases hkind : pick d <;> simp [hkind]

def bitfieldNamesOf : Option String × Declaration → List String
  | (space, .bitfield b) => namesWithin space b.item.name ++ [b.symbolicName, rawName space b]
  | (_, .typeAlias _) | (_, .constant _) | (_, .enumeration _) | (_, .record _) | (_, .callback _) => []

theorem namesOfKind_subset_bitfieldNamesOf (a : Option String × Declaration) :
    namesOfKind Declaration.bitfield? a ⊆ bitfieldNamesOf a := by
  obtain ⟨space, d⟩ := a
  cases d with
  | bitfield b => exact List.subset_append_left _ _
  | typeAlias _ | constant _ | enumeration _ | record _ | callback _ => exact List.nil_subset _

/-- A set of names that accepted declarations add to and nothing else changes. -/
structure Collects (S : Registry → List String) (adds : Option String × Declaration → List String) : Prop where
  start : S {} = []
  warned : ∀ r ws, S { r with warnings := r.warnings ++ ws } = S r
  accepted : ∀ r space d name, name ∈ S (r.accept space d) ↔ name ∈ S r ∨ name ∈ adds (space, d)

theorem enumNames_collects : Collects enumNames (namesOfKind Declaration.enumeration?) where
  start := rfl
  warned _ _ := rfl
  accepted r space d name := by
    cases d with
    | enumeration e => exact mem_foldl_insertMember
    | record record => cases space <;> exact (or_iff_left List.not_mem_nil).symm
    | typeAlias _ | constant _ | bitfield _ | callback _ => exact (or_iff_left List.not_mem_nil).symm

theorem bitfieldNames_collects : Collects bitfieldNames bitfieldNamesOf where
  start := rfl
  warned _ _ := rfl
  accepted r space d name := by
    cases d with
    | bitfield b => exact mem_foldl_insertMember
    | record record => cases space <;> exact (or_iff_left List.not_mem_nil).symm
    | typeAlias _ | constant _ | enumeration _ | callback _ => exact (or_iff_left List.not_mem_nil).symm

theorem recordNames_collects : Collects recordNames (namesOfKind Declaration.record?) where
  start := rfl
  warned _ _ := rfl
  accepted r space d name := by
    cases d with
    | record record =>
      have hfilled : (r.accept space (.record record)).recordNames =
          (namesWithin space record.name).foldl insertMember r.recordNames := by
        cases space <;> rfl
      rw [hfilled]
      exact mem_foldl_insertMember
    | typeAlias _ | constant _ | enumeration _ | bitfield _ | callback _ =>
      exact (or_iff_left List.not_mem_nil).symm

theorem classify_eq_enumeration_iff {r : Registry} {t : TypeRef} :
    r.classify t = .enumeration ↔ ∃ e, r.enumeration? t.name = some e := by
  unfold classify enumeration?
  cases r.lookup? t.name with
  | none => simp [classOf]
  | some d => cases d <;> simp [classOf, Declaration.enumeration?]

theorem classify_eq_record_iff {r : Registry} {t : TypeRef} :
    r.classify t = .record ↔ ∃ record, r.record? t.name = some record := by
  unfold classify record?
  cases r.lookup? t.name with
  | none => simp [classOf]
  | some d => cases d <;> simp [classOf, Declaration.record?]

end Registry

namespace Builder

theorem run_collects {S : Registry → List String} {adds : Option String × Declaration → List String}
    (h : Registry.Collects S adds) (ops : List Operation) (name : String) :
    name ∈ S (({} : Builder).run ops).registry ↔ ∃ a ∈ ({} : Builder).accepted ops, name ∈ adds a := by
  induction ops using List.reverseRecOn with
  | nil => simp [run, accepted, h.start]
  | append_singleton ops op ih =>
    rw [run_concat, accepted_concat]
    obtain ⟨hnone, ws, hws⟩ | ⟨d, _, hd, _, haccept⟩ := (({} : Builder).run ops).apply_cases op
    · rw [hnone, hws, h.warned, ih, List.append_nil]
    · rw [hd, haccept, h.accepted, ih]
      simp only [List.mem_append, List.mem_singleton, or_and_right, exists_or, exists_eq_left]

theorem exists_qualified_of_accepted (ops : List Operation) {space : String} {d : Declaration}
    (h : (some space, d) ∈ ({} : Builder).accepted ops) :
    ∃ id, (({} : Builder).run ops).registry.qualified.get? (qualify space d.name) = some id := by
  induction ops using List.reverseRecOn with
  | nil => cases h
  | append_singleton ops op ih =>
    rw [accepted_concat] at h
    rw [run_concat]
    obtain ⟨hnone, ws, hws⟩ | ⟨e, _, he, _, haccept⟩ := (({} : Builder).run ops).apply_cases op
    · rw [hnone, List.append_nil] at h
      rw [hws]
      exact ih h
    · rw [he] at h
      rw [haccept]
      obtain hold | hnew := List.mem_append.mp h
      · obtain ⟨id, hid⟩ := ih hold
        refine ⟨id, ?_⟩
        cases (({} : Builder).run ops).space with
        | none => rw [Registry.accept_qualified_none, hid]
        | some other =>
          rw [Registry.accept_qualified_some]
          exact Table.keptIn_insertNew _ _ _ _ _ hid
      · obtain ⟨hspace, rfl⟩ := Prod.mk.inj (List.mem_singleton.mp hnew)
        rw [← hspace, Registry.accept_qualified_some]
        exact Table.exists_get?_insertNew _ _ _

section Plain

variable (ops : List Operation)
  (hplain : ∀ d ∈ (({} : Builder).run ops).registry.entities, '.' ∉ d.name.toList)
include hplain

/-- Each name resolves to what was accepted with it. -/
theorem run_lookup?_eq_some_iff {name : String} {d : Declaration} :
    (({} : Builder).run ops).registry.lookup? name = some d ↔
      ∃ space, (space, d) ∈ ({} : Builder).accepted ops ∧ name ∈ Registry.namesWithin space d.name := by
  refine ⟨run_lookup?_accepted ops, ?_⟩
  rintro ⟨space, hmem, hname⟩
  have hindexed : (({} : Builder).run ops).registry.Indexed := Registry.Reachable.indexed ⟨ops, rfl⟩
  have hd : d ∈ (({} : Builder).run ops).registry.entities := run_entities ops ▸ List.mem_map.mpr ⟨_, hmem, rfl⟩
  obtain ⟨id, hget⟩ := List.mem_iff_getElem?.mp hd
  have hown : ∀ n, n = d.name → (({} : Builder).run ops).registry.lookup? n = some d := by
    rintro n rfl
    have hindex := (hindexed d.name id).mpr ⟨d, hget, rfl⟩
    rw [Registry.lookup?, Registry.idOf?, hindex]
    exact hget
  cases space with
  | none => exact hown name (List.mem_singleton.mp hname)
  | some space =>
    obtain hname | hname := List.mem_cons.mp hname
    · exact hown name hname
    · obtain rfl := List.mem_singleton.mp hname
      obtain ⟨other, hother⟩ := exists_qualified_of_accepted ops hmem
      -- The first declaration to claim the qualified name can only have been this one.
      obtain ⟨owner, e, _, he, hkey⟩ := run_qualified ops (Table.mem_entries_of_get? hother)
      have hsame := (qualify_inj (hplain d hd) (hplain e (Registry.get?_mem he)) hkey).2
      have hpos : id = other := hindexed.position_unique hget he hsame
      have hindex : (({} : Builder).run ops).registry.index.get? (qualify space d.name) = none := by
        rw [Option.eq_none_iff_forall_ne_some]
        intro i hi
        obtain ⟨dotted, hdotted, hnamed⟩ := (hindexed _ i).mp hi
        exact hplain dotted (Registry.get?_mem hdotted) (by simp [hnamed, qualify])
      rw [Registry.lookup?, Registry.idOf?, hindex, hother, ← hpos]
      exact hget

/-- A set that the declarations of one kind fill holds the names that resolve to that kind. -/
theorem run_mem_iff_lookup? {α : Type} {pick : Declaration → Option α} {S : Registry → List String}
    (h : Registry.Collects S (Registry.namesOfKind pick)) (name : String) :
    name ∈ S (({} : Builder).run ops).registry ↔
      ∃ x, ((({} : Builder).run ops).registry.lookup? name).bind pick = some x := by
  simp only [run_collects h, Option.bind_eq_some_iff, run_lookup?_eq_some_iff ops hplain]
  constructor
  · rintro ⟨⟨space, d⟩, hmem, hname⟩
    obtain ⟨⟨x, hx⟩, hname⟩ := Registry.mem_namesOfKind_iff.mp hname
    exact ⟨x, d, ⟨space, hmem, hname⟩, hx⟩
  · rintro ⟨x, d, ⟨space, hmem, hname⟩, hx⟩
    exact ⟨(space, d), hmem, Registry.mem_namesOfKind_iff.mpr ⟨⟨x, hx⟩, hname⟩⟩

end Plain

theorem run_isBitfield_of_bitfield? (ops : List Operation) {name : String} {b : Enumeration}
    (h : (({} : Builder).run ops).registry.bitfield? name = some b) :
    (({} : Builder).run ops).registry.isBitfield name = true := by
  obtain ⟨d, hd, hb⟩ := Option.bind_eq_some_iff.mp h
  obtain ⟨space, hmem, hname⟩ := run_lookup?_accepted ops hd
  unfold Registry.isBitfield
  rw [List.contains_iff_mem, run_collects Registry.bitfieldNames_collects]
  refine ⟨(space, d), hmem, Registry.namesOfKind_subset_bitfieldNamesOf _ ?_⟩
  exact Registry.mem_namesOfKind_iff.mpr ⟨⟨b, hb⟩, hname⟩

/-- The sets of names agree with look-up, and with the class of any occurrence of a name. -/
theorem run_name_sets_agree (ops : List Operation)
    (hplain : ∀ d ∈ (({} : Builder).run ops).registry.entities, '.' ∉ d.name.toList) (name : String) :
    let r := (({} : Builder).run ops).registry
    (r.isEnum name = true ↔ ∃ e, r.enumeration? name = some e) ∧
    (∀ t : TypeRef, t.name = name → (r.isEnum name = true ↔ r.classify t = .enumeration)) ∧
    (r.isRecordType name = true ↔ ∃ record, r.record? name = some record) ∧
    (∀ t : TypeRef, t.name = name → (r.isRecordType name = true ↔ r.classify t = .record)) ∧
    ∀ b, r.bitfield? name = some b → r.isBitfield name = true := by
  intro r
  have henum : r.isEnum name = true ↔ ∃ e, r.enumeration? name = some e :=
    List.contains_iff_mem.trans (run_mem_iff_lookup? ops hplain Registry.enumNames_collects name)
  have hrecord : r.isRecordType name = true ↔ ∃ record, r.record? name = some record :=
    List.contains_iff_mem.trans (run_mem_iff_lookup? ops hplain Registry.recordNames_collects name)
  refine ⟨henum, ?_, hrecord, ?_, fun b => run_isBitfield_of_bitfield? ops⟩
  · rintro t rfl
    exact henum.trans Registry.classify_eq_enumeration_iff.symm
  · rintro t rfl
    exact hrecord.trans Registry.classify_eq_record_iff.symm

/-- `Color` belongs to the first namespace that declares it, so only there does its qualified name mean anything. -/
theorem run_name_sets_agree_color :
    let element (name : String) : Element := { Element.named "declaration" with attributes := [("name", name)] }
    let color := Enumeration.ofElement (element "Color") 0
    let ops : List Operation := [.enter "Gdk", .register (.enumeration color), .enter "Gtk",
      .register (.record (Record.ofElement .objectClass (element "Color") 0).value),
      .register (.bitfield (Enumeration.ofElement (element "State") 0))]
    let r := (({} : Builder).run ops).registry
    (∀ d ∈ r.entities, '.' ∉ d.name.toList) ∧ r.isEnum "Gdk.Color" = true ∧
      r.classify (TypeRef.of "Gdk.Color" "GdkColor*") = .enumeration ∧ r.isRecordType "Gtk.Color" = false ∧
      r.record? "Gtk.Color" = none ∧ r.isBitfield "Gtk.State" = true := by
  intro element color ops r
  have hplain : ∀ d ∈ r.entities, '.' ∉ d.name.toList := by decide
  have hfound : r.enumeration? "Gdk.Color" = some color := rfl
  have hcolor := run_name_sets_agree ops hplain "Gdk.Color"
  have hother := run_name_sets_agree ops hplain "Gtk.Color"
  have hstate := run_name_sets_agree ops hplain "Gtk.State"
  have henum : r.isEnum "Gdk.Color" = true := hcolor.1.mpr ⟨color, hfound⟩
  have hrecord : r.isRecordType "Gtk.Color" = false := by decide
  have hnone : r.record? "Gtk.Color" = none := by
    rw [Option.eq_none_iff_forall_ne_some]
    intro record hsome
    exact Bool.eq_false_iff.mp hrecord (hother.2.2.1.mpr ⟨record, hsome⟩)
  exact ⟨hplain, henum, (hcolor.2.1 _ rfl).mp henum, hrecord, hnone, hstate.2.2.2.2 _ rfl⟩

end Builder

end Introspection
