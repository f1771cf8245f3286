import Introspection.Conversion
import Introspection.Entity.Declaration
import Introspection.Warning

set_option autoImplicit false

namespace Introspection

structure Registry where
  entities : List Declaration := []
  index : Table String Nat := {}
  qualified : Table String Nat := {}
  enumNames : List String := []
  bitfieldNames : List String := []
  recordNames : List String := []
  /-- The capability view of each view name. -/
  protocols : Table String TypeRef := {}
  /-- The reference view of each view name. -/
  references : Table String TypeRef := {}
  /-- The record behind each view name. -/
  referents : Table String TypeRef := {}
  conversions : ConversionTable := {}
  warnings : List Warning := []
deriving Repr

namespace Registry

def size (r : Registry) : Nat := r.entities.length

def get? (r : Registry) (id : Nat) : Option Declaration := r.entities[id]?

/-- A name of its own comes before a qualified one. -/
def idOf? (r : Registry) (name : String) : Option Nat := (r.index.get? name).or (r.qualified.get? name)

def lookup? (r : Registry) (name : String) : Option Declaration := (r.idOf? name).bind r.get?

def contains (r : Registry) (name : String) : Bool := (r.idOf? name).isSome

def records (r : Registry) : List Record := r.entities.filterMap Declaration.record?

def record? (r : Registry) (name : String) : Option Record := (r.lookup? name).bind Declaration.record?

/-- Bitfields are not enumerations here. -/
def enumeration? (r : Registry) (name : String) : Option Enumeration :=
  (r.lookup? name).bind Declaration.enumeration?

def bitfield? (r : Registry) (name : String) : Option Enumeration :=
  (r.lookup? name).bind Declaration.bitfield?

def isEnum (r : Registry) (name : String) : Bool := r.enumNames.contains name

/-- By the declared, the qualified, the raw or the symbolic name. -/
def isBitfield (r : Registry) (name : String) : Bool := r.bitfieldNames.contains name

def isRecordType (r : Registry) (name : String) : Bool := r.recordNames.contains name

def protocolFor? (r : Registry) (view : String) : Option TypeRef := r.protocols.get? view

def referenceFor? (r : Registry) (view : String) : Option TypeRef := r.references.get? view

inductive TypeClass where
  | record
  | typeAlias
  | bitfield
  | enumeration
  /-- A primitive, or a type nothing is known of. -/
  | fundamental
deriving DecidableEq, Repr

def classOf : Option Declaration → TypeClass
  | some (.record _) => .record
  | some (.typeAlias _) => .typeAlias
  | some (.bitfield _) => .bitfield
  | some (.enumeration _) => .enumeration
  | some (.constant _) | some (.callback _) | none => .fundamental

def classify (r : Registry) (t : TypeRef) : TypeClass := classOf (r.lookup? t.name)

def isCallback (r : Registry) (t : TypeRef) : Bool :=
  match r.lookup? t.name with
  | some (.callback _) => true
  | _ => false

theorem get?_mem {r : Registry} {id : Nat} {d : Declaration} (h : r.get? id = some d) : d ∈ r.entities :=
  List.mem_of_getElem? h

theorem record?_mem {r : Registry} {name : String} {record : Record} (h : r.record? name = some record) :
    record ∈ r.records := by
  obtain ⟨d, hd, hrecord⟩ := Option.bind_eq_some_iff.mp h
  obtain ⟨id, _, hid⟩ := Option.bind_eq_some_iff.mp hd
  exact List.mem_filterMap.mpr ⟨d, get?_mem hid, hrecord⟩

end Registry

end Introspection
