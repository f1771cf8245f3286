import Introspection.Registry.Basic

/-!
Parent chains and what is inherited along them. A chain is followed by names, so it may be cut short by a name
that resolves to no record or run into itself; following it stops there. The records of a registry are finitely
many and no name is met twice, which is why it stops at all.
-/

set_option autoImplicit false

namespace Introspection

namespace Registry

def parentOf? (r : Registry) (record : Record) : Option Record := record.parent.bind r.record?

/-- Names of records that are not among `seen`. -/
def unseen (r : Registry) (seen : List String) : List Record :=
  r.records.filter fun record => !seen.contains record.name

theorem unseen_length_lt {r : Registry} {seen : List String} {record : Record} (hmem : record ∈ r.records)
    (hnew : record.name ∉ seen) :
    (r.unseen (record.name :: seen)).length < (r.unseen seen).length := by
  have hsplit : r.unseen (record.name :: seen) =
      (r.unseen seen).filter fun other => other.name != record.name := by
    simp only [unseen, List.filter_filter]
    congr 1
    funext other
    by_cases h : other.name = record.name <;> simp [h]
  rw [hsplit]
  refine List.length_filter_lt_length_iff_exists.mpr ⟨record, ?_, by simp⟩
  simp [unseen, hmem, hnew]

/-- The chain of parents above `record` until it ends or meets a name of `seen`. -/
def chainFrom (r : Registry) (seen : List String) (record : Record) : List Record :=
  match hparent : r.parentOf? record with
  | none => []
  | some parent =>
    if hseen : parent.name ∈ seen then []
    else
      have : (r.unseen (parent.name :: seen)).length < (r.unseen seen).length := by
        obtain ⟨name, _, hname⟩ := Option.bind_eq_some_iff.mp hparent
        exact unseen_length_lt (record?_mem hname) hseen
      parent :: r.chainFrom (parent.name :: seen) parent
termination_by (r.unseen seen).length

def ancestors (r : Registry) (record : Record) : List Record := r.chainFrom [record.name] record

def lineage (r : Registry) (record : Record) : List Record := record :: r.ancestors record

def rootOf (r : Registry) (record : Record) : Record := (r.ancestors record).getLast?.getD record

def inheritedCallables (r : Registry) (record : Record) : List Callable :=
  (r.ancestors record).flatMap Record.callables

def ownMatching? (record : Record) (p : Callable → Bool) : Option Callable := record.callables.find? p

def inheritedMatching? (r : Registry) (record : Record) (p : Callable → Bool) : Option Callable :=
  (r.inheritedCallables record).find? p

def anyMatching? (r : Registry) (record : Record) (p : Callable → Bool) : Option Callable :=
  (ownMatching? record p).or (r.inheritedMatching? record p)

/-- A value of this type can be an instance of the record; an untyped pointer can be of any. -/
def isInstanceOf (s : Slot) (record : Record) : Bool :=
  s.type.isGenericPointer || s.type.isDirectPointerTo record.type

def isInstanceInHierarchy (r : Registry) (s : Slot) (record : Record) : Bool :=
  (r.lineage record).any (isInstanceOf s)

def takesInstance (r : Registry) (record : Record) (c : Callable) : Bool :=
  match c.arguments with
  | first :: _ => r.isInstanceInHierarchy first.slot record
  | [] => false

def refMethod? (r : Registry) (record : Record) : Option Callable :=
  r.anyMatching? record fun c => c.isRef && r.takesInstance record c

def unrefMethod? (r : Registry) (record : Record) : Option Callable :=
  r.anyMatching? record fun c => c.isUnref && r.takesInstance record c

def hasProperty (r : Registry) (record : Record) (name : String) : Bool :=
  record.declaresProperty name || (r.ancestors record).any fun a => a.declaresProperty name

/-- The properties that the parent does not have already. -/
def ownProperties (r : Registry) (record : Record) : List Property :=
  match r.parentOf? record with
  | some parent => record.properties.filter fun p => !r.hasProperty parent p.name
  | none => record.properties

def firstByName {α : Type} (name : α → String) (members : List α) : List α :=
  (members.foldl (fun (t : Table String α) m => t.insertNew (name m) m) {}).values.mergeSort
    fun a b => decide (name a ≤ name b)

/-- Own and inherited properties; of one name, the nearest. -/
def allProperties (r : Registry) (record : Record) : List Property :=
  firstByName Property.name ((r.lineage record).flatMap Record.properties)

def allSignals (r : Registry) (record : Record) : List Callable :=
  firstByName Callable.name ((r.lineage record).flatMap Record.signals)

end Registry

end Introspection
