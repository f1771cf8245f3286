import Introspection.Entity.Record

set_option autoImplicit false

namespace Introspection

open Markup

namespace Markup.Element

def parameters (e : Element) : List Element :=
  ((e.child? "parameters").getD e).children.filter fun c => c.name == "parameter" || c.name == "instance-parameter"

/-- A type that is no pointer and goes by a name of nothing, or has no name and is spelled `void`. -/
def NamesNothing (t : Element) : Prop :=
  '*' ∉ t.spelling.toList ∧
    ((t.attribute? "name").getD "" ∈ ["none", "void"] ∨
      (t.attribute? "name").getD "" = "" ∧ t.ownType.baseSpelling = "void")

def DeclaresValue (e : Element) : Prop := ∃ t, e.child? "type" = some t ∧ ¬ t.NamesNothing

theorem child?_name {e c : Element} {name : String} (h : e.child? name = some c) : c.name = name := by
  simpa using List.find?_some h

theorem ownType_isVoid_iff {t : Element} (hname : t.ownType.name ≠ "Void") :
    t.ownType.isVoid = true ↔ t.NamesNothing := by
  have hlevel : t.ownType.level = 0 ↔ '*' ∉ t.spelling.toList := List.count_eq_zero
  have hnames : TypeRef.voidNames.contains t.ownType.name = true ↔ t.ownType.name ∈ ["none", "void"] := by
    simp [TypeRef.voidNames, hname]
  unfold TypeRef.isVoid NamesNothing
  rw [Bool.and_eq_true, Bool.or_eq_true, Bool.and_eq_true, beq_iff_eq, beq_iff_eq, beq_iff_eq, hlevel, hnames]
  rfl

end Markup.Element

theorem Slot.ofChildren_isArray {e array : Element} (h : e.child? "array" = some array) :
    (Slot.ofChildren e).isArray = true := by
  have hname : array.name = "array" := Element.child?_name h
  have htype : array.ownType.isArray = true := by
    change (array.name == "array") = true
    rw [hname]
    rfl
  unfold Slot.ofChildren
  rw [h]
  change (array.ownType.isArray || _) = true
  rw [htype, Bool.true_or]

theorem Slot.ofChildren_isVoid_iff {e : Element} (harray : (Slot.ofChildren e).isArray = false)
    (hname : (Slot.ofChildren e).type.name ≠ "Void") :
    (Slot.ofChildren e).type.isVoid = false ↔ e.DeclaresValue := by
  have hnone : e.child? "array" = none := by
    cases h : e.child? "array" with
    | none => rfl
    | some array => exact absurd (Slot.ofChildren_isArray h) (by simp [harray])
  unfold Slot.ofChildren at hname ⊢
  rw [hnone] at hname ⊢
  unfold Element.DeclaresValue
  cases htype : e.child? "type" with
  | none =>
    have hvoid : (Slot.withAccess e).type.isVoid = true := by
      change TypeRef.void.isVoid = true
      decide
    simp [hvoid]
  | some t =>
    rw [htype] at hname
    change t.ownType.name ≠ "Void" at hname
    change t.ownType.isVoid = false ↔ _
    rw [← Bool.not_eq_true, Element.ownType_isVoid_iff hname]
    simp

namespace Argument

theorem ofElement_isVoid (e : Element) (index : Nat) :
    (ofElement e index).value.type.isVoid = (Slot.ofChildren e).type.isVoid := rfl

theorem ofElement_typeName (e : Element) (index : Nat) :
    (ofElement e index).value.type.name = (Slot.ofChildren e).type.name := rfl

theorem ofElement_isArray (e : Element) (index : Nat) :
    (ofElement e index).value.isArray = (Slot.ofChildren e).isArray := rfl

end Argument

theorem Warned.collect_mapIdx_value {α β : Type} (read : Nat → α → Warned β) (xs : List α) :
    (Warned.collect (xs.mapIdx read)).value = xs.mapIdx fun i x => (read i x).value := by
  change (xs.mapIdx read).map Warned.value = _
  rw [List.mapIdx_eq_zipIdx_map, List.mapIdx_eq_zipIdx_map, List.map_map]
  rfl

theorem Callable.ofElement_arguments (kind : CallableKind) (e : Element) (index : Nat) :
    (Callable.ofElement kind e index).value.arguments =
      e.parameters.mapIdx fun i p => (Argument.ofElement p i).value :=
  Warned.collect_mapIdx_value _ e.parameters

theorem Record.ofElement_signals (kind : RecordKind) (e : Element) (index : Nat) :
    (Record.ofElement kind e index).value.signals =
      (e.childrenNamed "signal").mapIdx fun i s => (Callable.ofElement .signal s i).value := by
  cases e
  rw [Record.ofElement]
  exact Warned.collect_mapIdx_value _ _

/-- For a callable without arrays and without the one name that is looked for, no argument is void exactly if every
    parameter declares a value. -/
theorem Callable.ofElement_arguments_valued_iff {kind : CallableKind} {e : Element} {index : Nat}
    (h : ∀ a ∈ (Callable.ofElement kind e index).value.arguments, a.isArray = false ∧ a.type.name ≠ "Void") :
    (∀ a ∈ (Callable.ofElement kind e index).value.arguments, a.type.isVoid = false) ↔
      ∀ p ∈ e.parameters, p.DeclaresValue := by
  rw [Callable.ofElement_arguments] at h ⊢
  have hargument : ∀ i (hi : i < e.parameters.length),
      (Argument.ofElement e.parameters[i] i).value.type.isVoid = false ↔ e.parameters[i].DeclaresValue := by
    intro i hi
    obtain ⟨harray, hname⟩ := h _ (List.mem_mapIdx.mpr ⟨i, hi, rfl⟩)
    rw [Argument.ofElement_isArray] at harray
    rw [Argument.ofElement_typeName] at hname
    rw [Argument.ofElement_isVoid]
    exact Slot.ofChildren_isVoid_iff harray hname
  constructor
  · intro hall p hp
    obtain ⟨i, hi, rfl⟩ := List.mem_iff_getElem.mp hp
    exact (hargument i hi).mp (hall _ (List.mem_mapIdx.mpr ⟨i, hi, rfl⟩))
  · intro hall a ha
    obtain ⟨i, hi, rfl⟩ := List.mem_mapIdx.mp ha
    exact (hargument i hi).mpr (hall _ (List.getElem_mem hi))

end Introspection
