import Introspection.Registry.Basic
import Introspection.Text.Split

set_option autoImplicit false

namespace Introspection

open Text

structure Include where
  name : String
  version : Option String
deriving DecidableEq, Repr

structure Namespace where
  name : String
  version : Option String
  identifierStems : List String
  symbolStems : List String
  headers : List String
  includes : List Include
  functions : List Callable
  /-- Positions in the registry of what was accepted from this namespace. -/
  entities : List Nat
deriving Repr

structure Repository where
  registry : Registry
  namespaces : List Namespace
deriving Repr

namespace Repository

def primary? (r : Repository) : Option Namespace := r.namespaces.getLast?

def namespaceIndex? (r : Repository) (name : String) : Option Nat :=
  r.namespaces.findIdx? fun n => n.name == name

def records (r : Repository) (n : Namespace) : List Record :=
  (n.entities.filterMap r.registry.get?).filterMap Declaration.record?

end Repository

/-- Longer stems come first; of equal length, the smaller one. -/
def stemBefore (a b : String) : Bool :=
  b.utf8ByteSize < a.utf8ByteSize || (a.utf8ByteSize == b.utf8ByteSize && decide (a ≤ b))

/-- The stems of a list with commas, without blanks and empty ones, longest first. -/
def stems (list : String) : List String :=
  let parts := (list.toList.splitOnP (· == ',')).map fun part => String.ofList (dropBlankEnds part)
  (parts.filter fun part => part != "").mergeSort stemBefore

end Introspection
