import Introspection.Hierarchy

set_option autoImplicit false

namespace Introspection

inductive HierarchyFault where
  | unresolvedParent (record parent : String)
  | unresolvedInterface (record interface : String)
  | cycle (path : List String)
deriving DecidableEq, Repr

def HierarchyFault.message : HierarchyFault → String
  | .unresolvedParent record parent => "parent '" ++ parent ++ "' of '" ++ record ++ "' not found"
  | .unresolvedInterface record interface =>
    "interface '" ++ interface ++ "' implemented by '" ++ record ++ "' not found"
  | .cycle path => "circular parent chain detected: " ++ String.intercalate " -> " path

namespace Registry

def parentFaults (r : Registry) (record : Record) : List HierarchyFault :=
  match record.parent with
  | some parent => if (r.record? parent).isNone then [.unresolvedParent record.name parent] else []
  | none => []

def interfaceFaults (r : Registry) (record : Record) : List HierarchyFault :=
  (record.implements.filter fun interface => (r.record? interface).isNone).map
    (.unresolvedInterface record.name)

def cycle? (r : Registry) (record : Record) : Option (List String) :=
  match r.parentOf? (r.rootOf record) with
  | some parent =>
    if parent.name = record.name then some ((r.lineage record).map Record.name ++ [record.name]) else none
  | none => none

/-- Faults of the records in turn. Records named in `inCycle` lie on a cycle that has been reported. -/
def faultsFrom (r : Registry) (inCycle : List String) : List Record → List HierarchyFault
  | [] => []
  | record :: rest =>
    r.parentFaults record ++ r.interfaceFaults record ++
      if record.name ∈ inCycle then r.faultsFrom inCycle rest
      else
        match r.cycle? record with
        | some path => .cycle path :: r.faultsFrom (inCycle ++ path) rest
        | none => r.faultsFrom inCycle rest

def hierarchyFaults (r : Registry) : List HierarchyFault := r.faultsFrom [] r.records

end Registry

end Introspection
