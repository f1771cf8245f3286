import Introspection.Generator
import Introspection.Proofs.Bridge.Cases
import Introspection.Proofs.Entity.Reading
import Introspection.Proofs.Hierarchy.Chain
import Introspection.Proofs.Repository.Declarations
import Introspection.Proofs.Signal.Account
import Introspection.Proofs.Signal.Verdict

set_option autoImplicit false

namespace Introspection

open Markup

namespace Boundary

theorem planArgument_eq_ok {b : Boundary} {a : Argument} {bridge : Bridge} (h : b.planArgument a = .ok bridge) :
    b.bridge a.type = bridge := by
  unfold planArgument at h
  split at h
  · cases h
  · exact Except.ok.inj h

theorem plan_eq_ok {b : Boundary} {signal : Callable} {plan : Plan} (h : b.plan signal = .ok plan) :
    ∃ bridges returns, signal.arguments.mapM b.planArgument = .ok bridges ∧
      b.planReturn signal.returns = .ok returns ∧ plan = ⟨bridges, returns, b.bridge signal.returns.type⟩ := by
  unfold Boundary.plan at h
  cases hreturns : b.planReturn signal.returns with
  | error reason =>
    rw [hreturns] at h
    cases h
  | ok returns =>
    cases harguments : signal.arguments.mapM b.planArgument with
    | error reason =>
      rw [hreturns, harguments] at h
      cases h
    | ok bridges =>
      rw [hreturns, harguments] at h
      exact ⟨bridges, returns, rfl, rfl, (Except.ok.inj h).symm⟩

theorem plan_arguments {b : Boundary} {signal : Callable} {plan : Plan} (h : b.plan signal = .ok plan) :
    plan.arguments = signal.arguments.map fun a => b.bridge a.type := by
  obtain ⟨bridges, returns, harguments, _, rfl⟩ := plan_eq_ok h
  have hbridges : List.Forall₂ Eq (signal.arguments.map fun a => b.bridge a.type) bridges :=
    List.forall₂_map_left_iff.mpr ((mapM_eq_ok_iff.mp harguments).imp fun _ _ => planArgument_eq_ok)
  rw [List.forall₂_eq_eq_eq] at hbridges
  exact hbridges.symm

theorem not_mem_map_iff {γ : Type} {arguments : List Argument} {f : Argument → γ} {x : γ}
    (h : ∀ a ∈ arguments, (f a = x ↔ a.type.isVoid = true)) :
    x ∉ arguments.map f ↔ ∀ a ∈ arguments, a.type.isVoid = false := by
  rw [List.mem_map]
  constructor
  · intro hnone a ha
    rw [← Bool.not_eq_true]
    exact fun hvoid => hnone ⟨a, ha, (h a ha).mpr hvoid⟩
  · rintro hall ⟨a, ha, hx⟩
    exact absurd ((h a ha).mp hx) (by simp [hall a ha])

theorem Accepts.void_not_mem_iff {b : Boundary} {signal : Callable} {plan : Plan} (h : b.Accepts signal plan) :
    Bridge.void ∉ plan.arguments ↔ ∀ a ∈ signal.arguments, a.type.isVoid = false := by
  rw [plan_arguments h.2.2]
  exact not_mem_map_iff fun _ _ => bridge_eq_void_iff

theorem Accepts.unit_not_mem_iff {b : Boundary} {signal : Callable} {plan : Plan} (h : b.Accepts signal plan)
    (record : Record) :
    "()" ∉ (b.binding record signal plan).abiTypes ↔ ∀ a ∈ signal.arguments, a.type.isVoid = false := by
  have halias : ∀ a ∈ signal.arguments, b.registry.classify a.type ≠ .typeAlias := fun a ha =>
    ((Registry.rejection?_eq_none_iff.mp h.1).2.1 a (List.mem_cons_of_mem _ ha)).1
  change "()" ∉ plan.arguments.map b.abi ↔ _
  rw [plan_arguments h.2.2, List.map_map]
  exact not_mem_map_iff fun a ha => abi_bridge_eq_unit_iff (halias a ha)

end Boundary

theorem mem_of_mem_firsts {α : Type} {key : α → String} {xs : List α} {x : α} (h : x ∈ firsts key xs) : x ∈ xs := by
  obtain ⟨⟨_, i⟩, hp, rfl⟩ := List.mem_map.mp h
  exact List.mem_of_getElem? (List.mem_zipIdx_iff_getElem?.mp (List.mem_filter.mp hp).1)

theorem Placed.exists_kind_of_declaration {p : Placed} {record : Record} (h : p.declaration = .record record) :
    ∃ kind, record = (Record.ofElement kind p.1 p.2).value := by
  unfold declaration at h
  split at h
  case h_5 | h_6 | h_7 | h_8 => exact ⟨_, (Declaration.record.inj h).symm⟩
  all_goals cases h

namespace Repository

/-- Every signal of a loaded record is read from a signal of an element that declares the record. -/
theorem exists_element_of_signal (texts : List String) {record : Record} {signal : Callable}
    (hrecord : record ∈ (ofTexts texts).registry.records)
    (hsignal : signal ∈ record.signals) :
    ∃ p ∈ texts.flatMap Placed.inText, p.declaration = .record record ∧
      ∃ e ∈ p.1.childrenNamed "signal", ∃ i, signal = (Callable.ofElement .signal e i).value := by
  have haccounts : (({} : Loader).attemptAll texts).1.builder.Accounts ([] ++ texts.flatMap Placed.inText) :=
    Loader.accounts_attemptAll (l := {}) Builder.Accounts.empty texts
  have hentity : Declaration.record record ∈ (({} : Loader).attemptAll texts).1.builder.registry.entities :=
    Registry.mem_records_iff.mp hrecord
  rw [haccounts.entities] at hentity
  obtain ⟨p, hp, hdeclares⟩ := List.mem_map.mp hentity
  obtain ⟨kind, rfl⟩ := Placed.exists_kind_of_declaration hdeclares
  rw [Record.ofElement_signals] at hsignal
  obtain ⟨i, hi, rfl⟩ := List.mem_mapIdx.mp hsignal
  exact ⟨p, mem_of_mem_firsts hp, hdeclares, _, List.getElem_mem hi, i, rfl⟩

/-- Whatever texts are loaded, a signal that gets a connecting function passes arguments of the unit type unless every
    parameter of its element declares a value. -/
theorem ofTexts_valued_arguments_iff (texts : List String) (c : Config) (record : Record) (signal : Callable)
    (plan : Plan) (hrecord : record ∈ (ofTexts texts).registry.records)
    (hsignal : signal ∈ record.signals)
    (haccepts : ((ofTexts texts).boundary c).Accepts signal plan) :
    ∃ p ∈ texts.flatMap Placed.inText, p.declaration = .record record ∧
      ∃ e ∈ p.1.childrenNamed "signal", ∃ i, signal = (Callable.ofElement .signal e i).value ∧
        ((∀ a ∈ signal.arguments, a.type.isVoid = false) ↔ ∀ q ∈ e.parameters, q.DeclaresValue) ∧
        (Bridge.void ∉ plan.arguments ↔ ∀ q ∈ e.parameters, q.DeclaresValue) ∧
        ("()" ∉ (((ofTexts texts).boundary c).binding record signal plan).abiTypes ↔
          ∀ q ∈ e.parameters, q.DeclaresValue) := by
  obtain ⟨p, hp, hdeclares, e, he, i, rfl⟩ := exists_element_of_signal texts hrecord hsignal
  obtain ⟨hinputs, hplaces, _⟩ := Registry.rejection?_eq_none_iff.mp haccepts.1
  have hvalued := Callable.ofElement_arguments_valued_iff fun a ha =>
    ⟨(hplaces a (List.mem_cons_of_mem _ ha)).2.2, (hinputs a ha).2.2⟩
  exact ⟨p, hp, hdeclares, e, he, i, rfl, hvalued, haccepts.void_not_mem_iff.trans hvalued,
    (haccepts.unit_not_mem_iff record).trans hvalued⟩

theorem ofTexts_valued_arguments_typed :
    let texts := ["<repository><namespace><class name='Widget'><signal name='moved'><parameter><type name='gint'/>"
      ++ "</parameter></signal></class></namespace></repository>"]
    let r := ofTexts texts
    let plan : Plan := ⟨[.fundamental .int32], .void, .void⟩
    ∃ record ∈ r.registry.records, ∃ signal ∈ record.signals, (r.boundary {}).Accepts signal plan ∧
      ∃ e i, signal = (Callable.ofElement .signal e i).value ∧ (∀ q ∈ e.parameters, q.DeclaresValue) ∧
        "()" ∉ ((r.boundary {}).binding record signal plan).abiTypes := by
  intro texts r plan
  have haccepted : ∃ record ∈ r.registry.records, ∃ signal ∈ record.signals, (r.boundary {}).Accepts signal plan := by
    decide +kernel
  obtain ⟨record, hrecord, signal, hsignal, haccepts⟩ := haccepted
  obtain ⟨_, _, _, e, _, i, hread, _, hbridges, hunits⟩ :=
    ofTexts_valued_arguments_iff texts {} record signal plan hrecord hsignal haccepts
  have hvalued : ∀ q ∈ e.parameters, q.DeclaresValue := hbridges.mp (by decide)
  exact ⟨record, hrecord, signal, hsignal, haccepts, e, i, hread, hvalued, hunits.mpr hvalued⟩

/-- A parameter without a type passes all rules, and the trampoline takes it as a unit. -/
theorem ofTexts_untyped_parameter :
    let texts := ["<repository><namespace><class name='Widget'><signal name='moved'><parameter name='x'/></signal>"
      ++ "</class></namespace></repository>"]
    let r := ofTexts texts
    let plan : Plan := ⟨[.void], .void, .void⟩
    ∃ record ∈ r.registry.records, ∃ signal ∈ record.signals, (r.boundary {}).Accepts signal plan ∧
      (∃ a ∈ signal.arguments, a.type.isVoid = true) ∧
      "arg1: ()" ∈ ((r.boundary {}).binding record signal plan).trampolineParameters ⟨"ffi", "crate::signal"⟩ := by
  decide +kernel

end Repository

end Introspection
