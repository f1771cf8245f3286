import Introspection.Proofs.Hierarchy.Chain
import Introspection.Proofs.Registry.Views
import Introspection.Signal.Binding

/-!
Reference views in generated code. The handle of a name is the reference view of the first record that has the name
among its view names, which need not be the record that the name leads to: `WidgetRef` is a view name of `Widget`,
and a record that is itself called `WidgetRef` gets the handle of `Widget` if that one comes first.
-/

set_option autoImplicit false

namespace Introspection

open Markup

namespace Builder

theorem viewOwner?_of_record? (ops : List Operation) {name : String} {record : Record}
    (h : (({} : Builder).run ops).registry.record? name = some record) :
    ∃ owner, ({} : Builder).viewOwner? ops name = some owner := by
  obtain ⟨d, hlookup, hrecord⟩ := Option.bind_eq_some_iff.mp h
  obtain ⟨space, hmem, hname⟩ := run_lookup?_accepted ops hlookup
  cases d with
  | record other =>
    have hkey : name ∈ other.viewKeys space := List.mem_flatMap.mpr ⟨other.name, List.mem_cons_self, hname⟩
    have hsome : (recordKnownAs name (space, .record other)).isSome = true := by simp [recordKnownAs, hkey]
    exact Option.isSome_iff_exists.mp (List.findSome?_isSome_iff.mpr ⟨_, hmem, hsome⟩)
  | typeAlias _ | constant _ | enumeration _ | bitfield _ | callback _ => cases hrecord

theorem run_handleName (ops : List Operation) (ffi : String) {name : String} {record : Record}
    (h : (({} : Builder).run ops).registry.record? name = some record) :
    ∃ owner, ({} : Builder).viewOwner? ops name = some owner ∧
      (Boundary.mk (({} : Builder).run ops).registry ffi).handleName name = owner.referenceName := by
  obtain ⟨owner, howner⟩ := viewOwner?_of_record? ops h
  refine ⟨owner, howner, ?_⟩
  unfold Boundary.handleName
  rw [run_referenceFor?, howner]
  rfl

theorem run_record?_name (ops : List Operation) {record : Record}
    (h : record ∈ (({} : Builder).run ops).registry.records) :
    (({} : Builder).run ops).registry.record? record.name = some record := by
  obtain ⟨id, hid⟩ := List.mem_iff_getElem?.mp (Registry.mem_records_iff.mp h)
  have hindexed : (({} : Builder).run ops).registry.Indexed := Registry.Reachable.indexed ⟨ops, rfl⟩
  have hindex := (hindexed record.name id).mpr ⟨_, hid, rfl⟩
  have hget : (({} : Builder).run ops).registry.get? id = some (.record record) := hid
  simp [Registry.record?, Registry.lookup?, Registry.idOf?, hindex, hget, Declaration.record?]

/-- The first record known by this name has the same class name, and so the same reference view. -/
def SharesView (b : Builder) (ops : List Operation) (name : String) (record : Record) : Prop :=
  ∃ owner, b.viewOwner? ops name = some owner ∧ owner.className = record.className

theorem run_handleName_eq_iff (ops : List Operation) (ffi : String) {name : String} {record : Record}
    (h : (({} : Builder).run ops).registry.record? name = some record) :
    (Boundary.mk (({} : Builder).run ops).registry ffi).handleName name = record.referenceName ↔
      ({} : Builder).SharesView ops name record := by
  obtain ⟨owner, howner, hhandle⟩ := run_handleName ops ffi h
  rw [hhandle, Record.referenceName, Record.referenceName, String.append_left_inj]
  constructor
  · exact fun hclass => ⟨owner, howner, hclass⟩
  · rintro ⟨other, hother, hclass⟩
    have heq : owner = other := Option.some.inj (howner.symm.trans hother)
    rw [heq, hclass]

/-- Where a record gets its own reference view in generated code: a name that leads to it gives its handle, and the
    block, the handler and the trampoline of its bindings use it, exactly if the first record known by that name
    has the same class name. -/
theorem run_own_handle_iff (ops : List Operation) (ffi : String) :
    let r := (({} : Builder).run ops).registry
    let b : Boundary := ⟨r, ffi⟩
    (∀ name record, r.record? name = some record →
      (b.handleName name = record.referenceName ↔ ({} : Builder).SharesView ops name record)) ∧
    ∀ record ∈ r.records,
      (∀ bindings, bindings ≠ [] →
        (b.blockText record bindings =
            "impl " ++ record.referenceName ++ " \x7b\n" ++ String.intercalate "\n" bindings ++ "\x7d\n" ↔
          ({} : Builder).SharesView ops record.name record)) ∧
      ∀ signal plan,
        ((b.binding record signal plan).handlerInputs.head? = some record.referenceName ↔
          ({} : Builder).SharesView ops record.name record) ∧
        ((b.binding record signal plan).callArguments.head? =
            some (record.referenceName ++ "::from_raw(unowned_self.cast())") ↔
          ({} : Builder).SharesView ops record.name record) := by
  intro r b
  refine ⟨fun name record h => run_handleName_eq_iff ops ffi h, ?_⟩
  intro record hrecord
  have hself : b.selfHandle record = record.referenceName ↔ ({} : Builder).SharesView ops record.name record :=
    run_handleName_eq_iff ops ffi (run_record?_name ops hrecord)
  refine ⟨?_, ?_⟩
  · intro bindings hbindings
    rw [← hself]
    simp [Boundary.blockText, hbindings]
  · intro signal plan
    rw [← hself]
    simp [Boundary.binding, Binding.handlerInputs, Binding.callArguments]

theorem run_own_handle_taken :
    let named (name : String) : Record :=
      (Record.ofElement .objectClass { Element.named "class" with attributes := [("name", name)] } 0).value
    let ops : List Operation := [.register (.record (named "Widget")), .register (.record (named "WidgetRef"))]
    let r := (({} : Builder).run ops).registry
    let b : Boundary := ⟨r, "ffi"⟩
    r.record? "WidgetRef" = some (named "WidgetRef") ∧ (named "WidgetRef").referenceName = "WidgetRefRef" ∧
      b.handleName "WidgetRef" = "WidgetRef" ∧ b.selfHandle (named "WidgetRef") = "WidgetRef" := by
  refine ⟨rfl, ?_, ?_, ?_⟩
  all_goals decide

end Builder

end Introspection
