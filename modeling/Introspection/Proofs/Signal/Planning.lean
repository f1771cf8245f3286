import Introspection.Proofs.Signal.Valueless

/-!
Planning a signal that all rules pass. The rules go by the class of a type and the plan goes by its bridge; an alias or
a record among the bridges would have been one among the classes, so the plan never meets them where it would have to
refuse. What is left to refuse is a returned string that the caller does not come to own, and a returned callback.
-/

set_option autoImplicit false

namespace Introspection

open Markup

def Bridge.isString : Bridge → Bool
  | .fundamental f => f.isString
  | .void | .record _ | .bitfield _ _ | .enumeration _ | .typeAlias _ | .verbatim _ => false

theorem Registry.isCallback_iff {r : Registry} {t : TypeRef} :
    r.isCallback t = true ↔ ∃ c, r.lookup? t.name = some (.callback c) := by
  unfold isCallback
  split
  · next c hc => simp [hc]
  · next hnone => simpa using hnone

namespace Boundary

/-- Aliases and records are bridged as what they are, and no bridge is the fundamental type of no values. -/
theorem bridge_classified (b : Boundary) (t : TypeRef) :
    (∀ name, b.bridge t = .typeAlias name → b.registry.classify t = .typeAlias) ∧
    (∀ handle, b.bridge t = .record handle → b.registry.classify t = .record) ∧
    b.bridge t ≠ .fundamental .none := by
  cases hvalue : t.isVoid with
  | true => simp [bridge_eq_void_iff.mpr hvalue]
  | false =>
    obtain ⟨hclass, _, h⟩ | ⟨hclass, _, _, h⟩ | ⟨hclass, _, h⟩ | ⟨hclass, h⟩ | ⟨hclass, ⟨f, hf, hfits, h⟩ | h⟩ :=
      b.bridge_cases hvalue
    · simp [h, hclass]
    · simp [h]
    · simp [h]
    · simp [h, hclass]
    · have hnone : f ≠ .none := by
        rintro rfl
        exact fundamental_abi_ne_unit hvalue hf hfits rfl
      simp [h, hnone]
    · simp [h]

theorem planReturn_cases {b : Boundary} {returns : Argument}
    (halias : ∀ name, b.bridge returns.type ≠ .typeAlias name)
    (hrecord : ∀ handle, b.bridge returns.type ≠ .record handle) :
    let bridge := b.bridge returns.type
    (bridge = .void ∧ b.planReturn returns = .ok .void) ∨
    (bridge.isString = true ∧ returns.transfer = .full ∧ b.planReturn returns = .ok .ownedString) ∨
    (bridge.isString = true ∧ returns.transfer ≠ .full ∧ b.planReturn returns = .error .borrowedStringReturn) ∨
    (bridge ≠ .void ∧ bridge.isString = false ∧
      (b.registry.isCallback returns.type = true ∧ b.planReturn returns = .error .callbackReturn ∨
        b.registry.isCallback returns.type = false ∧ b.planReturn returns = .ok (.value bridge))) := by
  unfold planReturn
  cases hbridge : b.bridge returns.type with
  | typeAlias name => exact absurd hbridge (halias name)
  | record handle => exact absurd hbridge (hrecord handle)
  | void => exact .inl ⟨rfl, rfl⟩
  | fundamental f =>
    cases hstring : f.isString with
    | true => by_cases hfull : returns.transfer = .full <;> simp [Bridge.isString, hstring, hfull]
    | false => cases hcallback : b.registry.isCallback returns.type <;> simp [Bridge.isString, hstring]
  | bitfield _ _ | enumeration _ | verbatim _ =>
    cases hcallback : b.registry.isCallback returns.type <;> simp [Bridge.isString]

theorem planArgument_eq {b : Boundary} {a : Argument} (h : ∀ name, b.bridge a.type ≠ .typeAlias name) :
    b.planArgument a = .ok (b.bridge a.type) := by
  unfold planArgument
  split
  · next name hname => exact absurd hname (h name)
  · rfl

section Passed

variable {b : Boundary} {signal : Callable} (hpasses : b.registry.rejection? signal = none)
include hpasses

theorem bridge_ne_typeAlias_of_passes {a : Argument} (h : a ∈ signal.returns :: signal.arguments) (name : String) :
    b.bridge a.type ≠ .typeAlias name := by
  intro hbridge
  obtain ⟨_, hplaces, _⟩ := Registry.rejection?_eq_none_iff.mp hpasses
  exact (hplaces a h).1 ((b.bridge_classified a.type).1 name hbridge)

theorem bridge_ne_record_of_passes (handle : String) : b.bridge signal.returns.type ≠ .record handle := by
  intro hbridge
  obtain ⟨_, _, hreturns⟩ := Registry.rejection?_eq_none_iff.mp hpasses
  exact hreturns ((b.bridge_classified signal.returns.type).2.1 handle hbridge)

/-- The arguments are bridged without fail, so it is the return that decides. -/
theorem plan_eq_of_passes :
    b.plan signal = (b.planReturn signal.returns).map fun returns =>
      ⟨signal.arguments.map fun a => b.bridge a.type, returns, b.bridge signal.returns.type⟩ := by
  have harguments : signal.arguments.mapM b.planArgument = .ok (signal.arguments.map fun a => b.bridge a.type) := by
    rw [mapM_eq_ok_iff, List.forall₂_map_right_iff, List.forall₂_same]
    intro a ha
    exact planArgument_eq (bridge_ne_typeAlias_of_passes hpasses (List.mem_cons_of_mem _ ha))
  unfold Boundary.plan
  rw [harguments]
  cases b.planReturn signal.returns <;> rfl

theorem plan_eq_error_iff {reason : Rejection} :
    b.plan signal = .error reason ↔ b.planReturn signal.returns = .error reason := by
  rw [plan_eq_of_passes hpasses]
  cases b.planReturn signal.returns <;> simp [Except.map]

theorem exists_plan_iff :
    (∃ plan, b.plan signal = .ok plan) ↔ ∃ returns, b.planReturn signal.returns = .ok returns := by
  rw [plan_eq_of_passes hpasses]
  cases b.planReturn signal.returns <;> simp [Except.map]

end Passed

/-- A signal that all rules pass is planned unless it returns a string that the caller does not come to own or a
    callback. The plan bridges every argument, and what is returned by the bridge of its type. -/
theorem plan_outcome (b : Boundary) (signal : Callable) (hpasses : b.registry.rejection? signal = none) :
    let bridge := b.bridge signal.returns.type
    let borrowed := bridge.isString = true ∧ signal.returns.transfer ≠ .full
    let callback := bridge ≠ .void ∧ bridge.isString = false ∧
      ∃ c, b.registry.lookup? signal.returns.type.name = some (.callback c)
    (b.plan signal = .error .borrowedStringReturn ↔ borrowed) ∧
    (b.plan signal = .error .callbackReturn ↔ callback) ∧
    ((∃ plan, b.plan signal = .ok plan) ↔ ¬ borrowed ∧ ¬ callback) ∧
    (∀ reason, b.plan signal = .error reason → reason = .borrowedStringReturn ∨ reason = .callbackReturn) ∧
    ∀ plan, b.plan signal = .ok plan →
      plan.arguments = (signal.arguments.map fun a => b.bridge a.type) ∧
      (∀ name, Bridge.typeAlias name ∉ plan.arguments) ∧
      (plan.returns = .void ↔ bridge = .void) ∧
      (plan.returns = .ownedString ↔ bridge.isString = true) ∧
      (bridge ≠ .void → bridge.isString = false → plan.returns = .value bridge) ∧
      ∀ value, plan.returns = .value value →
        value = bridge ∧ value ≠ .void ∧ (∀ name, value ≠ .typeAlias name) ∧ (∀ handle, value ≠ .record handle) ∧
          value.isString = false ∧ value ≠ .fundamental .none := by
  intro bridge borrowed callback
  have halias := bridge_ne_typeAlias_of_passes hpasses List.mem_cons_self
  have hrecord := bridge_ne_record_of_passes hpasses
  have hcases := planReturn_cases halias hrecord
  have hvalued : bridge.isString = true → bridge ≠ .void := by
    rintro hstring hvoid
    rw [hvoid] at hstring
    exact Bool.false_ne_true hstring
  simp only [borrowed, callback, ← Registry.isCallback_iff, plan_eq_error_iff hpasses, exists_plan_iff hpasses]
  refine ⟨by grind, by grind, by grind, by grind, ?_⟩
  intro plan hplan
  have harguments := plan_arguments hplan
  obtain ⟨_, returns, _, hreturns, rfl⟩ := plan_eq_ok hplan
  refine ⟨harguments, ?_, by grind, by grind, by grind, ?_⟩
  · intro name hname
    rw [harguments] at hname
    obtain ⟨a, ha, hbridge⟩ := List.mem_map.mp hname
    exact bridge_ne_typeAlias_of_passes hpasses (List.mem_cons_of_mem _ ha) name hbridge
  · intro value hvalue
    obtain ⟨rfl, hvoid, hstring⟩ : value = bridge ∧ bridge ≠ .void ∧ bridge.isString = false := by grind
    exact ⟨rfl, hvoid, halias, hrecord, hstring, (b.bridge_classified signal.returns.type).2.2⟩

theorem plan_outcome_widget :
    let named (name : String) : Element := { Element.named "declaration" with attributes := [("name", name)] }
    let r := (({} : Builder).run [.register (.record (Record.ofElement .objectClass (named "Widget") 0).value),
      .register (.callback (Callable.ofElement .callback (named "Func") 0).value)]).registry
    let b : Boundary := ⟨r, "ffi"⟩
    let passed (name : String) (type : TypeRef) : Argument := { item := { name }, slot := { type } }
    let signal (returns : Argument) : Callable :=
      { item := { name := "renamed" }, kind := .signal, symbol := "", type := returns.type, returns,
        arguments := [passed "child" (.of "Widget" "TestWidget*"), passed "count" (.of "gint" "gint")],
        canThrow := false }
    let kept := signal (passed "return" (.of "utf8" "const gchar*"))
    let handedOver := signal { passed "return" (.of "utf8" "gchar*") with transfer := .full }
    let callback := signal (passed "return" (.of "Func" "TestFunc"))
    (r.rejection? kept = none ∧ r.rejection? handedOver = none ∧ r.rejection? callback = none) ∧
    b.plan kept = .error .borrowedStringReturn ∧ b.plan callback = .error .callbackReturn ∧
    ∃ plan, b.plan handedOver = .ok plan ∧ plan.arguments = [.record "WidgetRef", .fundamental .int32] ∧
      plan.returns = .ownedString := by
  intro named r b passed signal kept handedOver callback
  have hpasses : r.rejection? kept = none ∧ r.rejection? handedOver = none ∧ r.rejection? callback = none := by decide
  have hkept := plan_outcome b kept hpasses.1
  have hhandedOver := plan_outcome b handedOver hpasses.2.1
  have hcallback := plan_outcome b callback hpasses.2.2
  have hstring : (b.bridge handedOver.returns.type).isString = true := by decide
  obtain ⟨plan, hplan⟩ := hhandedOver.2.2.1.mpr ⟨fun h => h.2 rfl, fun h => by simp [hstring] at h⟩
  obtain ⟨harguments, _, _, howned, _⟩ := hhandedOver.2.2.2.2 plan hplan
  refine ⟨hpasses, hkept.1.mpr (by decide), hcallback.2.1.mpr ⟨by decide, by decide, _, rfl⟩, plan, hplan, ?_,
    howned.mpr hstring⟩
  rw [harguments]
  decide

end Boundary

end Introspection
