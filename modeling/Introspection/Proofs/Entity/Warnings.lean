import Introspection.Entity.Record

set_option autoImplicit false

namespace Introspection

open Markup

def Warning.isInvalid : Warning → Bool
  | .invalid _ _ _ _ => true
  | .duplicate _ _ | .missing _ _ _ => false

namespace Warned

variable {α β : Type}

def OnlyInvalid (x : Warned α) : Prop := ∀ w ∈ x.warnings, w.isInvalid = true

theorem onlyInvalid_pure (a : α) : (pure a : Warned α).OnlyInvalid := by
  intro w hw
  simp at hw

theorem OnlyInvalid.bind {x : Warned α} {f : α → Warned β} (hx : x.OnlyInvalid)
    (hf : (f x.value).OnlyInvalid) : (x >>= f).OnlyInvalid := by
  intro w hw
  rw [bind_warnings, List.mem_append] at hw
  exact hw.elim (hx w) (hf w)

theorem onlyInvalid_collect {xs : List (Warned α)} (h : ∀ x ∈ xs, x.OnlyInvalid) :
    (collect xs).OnlyInvalid := by
  intro w hw
  obtain ⟨x, hx, hwx⟩ := List.mem_flatMap.mp hw
  exact h x hx w hwx

theorem onlyInvalid_collect_mapIdx {γ : Type} {read : Nat → γ → Warned α} (h : ∀ i c, (read i c).OnlyInvalid)
    (cs : List γ) : (collect (cs.mapIdx read)).OnlyInvalid := by
  apply onlyInvalid_collect
  intro x hx
  obtain ⟨i, hi, rfl⟩ := List.mem_mapIdx.mp hx
  exact h i _

end Warned

open Warned

namespace Argument

theorem onlyInvalid_reading {α : Type} (e : Element) (key : String) (parse? : String → Option α) (default : α)
    (fallback : String) : (reading e key parse? default fallback).OnlyInvalid := by
  unfold reading
  split
  · exact onlyInvalid_pure default
  · split
    · exact onlyInvalid_pure _
    · intro w hw
      rw [List.mem_singleton] at hw
      rw [hw]
      rfl

theorem onlyInvalid_ofElement (e : Element) (index : Nat) : (ofElement e index).OnlyInvalid :=
  (onlyInvalid_reading e _ _ _ _).bind ((onlyInvalid_reading e _ _ _ _).bind (onlyInvalid_pure _))

end Argument

namespace Callable

theorem onlyInvalid_returnOf (e : Element) : (returnOf e).OnlyInvalid := by
  unfold returnOf
  split
  · exact Argument.onlyInvalid_ofElement _ 0
  · exact onlyInvalid_pure Argument.void

theorem onlyInvalid_ofElement (kind : CallableKind) (e : Element) (index : Nat) :
    (ofElement kind e index).OnlyInvalid :=
  (onlyInvalid_returnOf e).bind
    ((onlyInvalid_collect_mapIdx (fun i p => Argument.onlyInvalid_ofElement p i) _).bind (onlyInvalid_pure _))

end Callable

namespace Record

theorem onlyInvalid_callablesOf (e : Element) (name : String) (kind : CallableKind) :
    (callablesOf e name kind).OnlyInvalid :=
  onlyInvalid_collect_mapIdx (fun i c => Callable.onlyInvalid_ofElement kind c i) _

theorem onlyInvalid_outline (kind : RecordKind) (e : Element) (index : Nat) :
    (outline kind e index).OnlyInvalid :=
  (onlyInvalid_callablesOf e _ _).bind ((onlyInvalid_callablesOf e _ _).bind
    ((onlyInvalid_callablesOf e _ _).bind ((onlyInvalid_callablesOf e _ _).bind (onlyInvalid_pure _))))

mutual

theorem onlyInvalid_ofElement (kind : RecordKind) (e : Element) (index : Nat) :
    (ofElement kind e index).OnlyInvalid := by
  cases e with
  | mk name qualifiedName attributes children text =>
    rw [ofElement]
    exact (onlyInvalid_outline kind _ index).bind ((onlyInvalid_nestedFrom 0 children).bind (onlyInvalid_pure _))

theorem onlyInvalid_nestedFrom (index : Nat) (elements : List Element) :
    (nestedFrom index elements).OnlyInvalid := by
  cases elements with
  | nil =>
    rw [nestedFrom]
    exact onlyInvalid_pure []
  | cons e rest =>
    rw [nestedFrom]
    split
    · exact onlyInvalid_nestedFrom index rest
    · next kind _ =>
      exact (onlyInvalid_ofElement kind e index).bind
        ((onlyInvalid_nestedFrom (index + 1) rest).bind (onlyInvalid_pure _))

end

end Record

end Introspection
