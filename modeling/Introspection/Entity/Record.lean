import Introspection.Entity.Callable
import Introspection.Naming

set_option autoImplicit false

namespace Introspection

open Markup Text

inductive PropertyKind where
  | property
  | field
deriving DecidableEq, Repr, Inhabited

def PropertyKind.title : PropertyKind → String
  | .property => "Property"
  | .field => "Field"

structure Property where
  item : Item
  kind : PropertyKind
  slot : Slot
deriving Repr, Inhabited

namespace Property

def ofElement (kind : PropertyKind) (e : Element) (index : Nat) : Property where
  item := .ofElement e index
  kind
  slot := .ofChildren e

def name (p : Property) : String := p.item.name

end Property

inductive RecordKind where
  | record
  | union
  | objectClass
  | interface
deriving DecidableEq, Repr, Inhabited

namespace RecordKind

def title : RecordKind → String
  | record => "Record"
  | union => "Union"
  | objectClass => "Class"
  | interface => "Interface"

/-- Classes and interfaces take part in inheritance. -/
def inherits : RecordKind → Bool
  | objectClass | interface => true
  | record | union => false

end RecordKind

structure Record where
  item : Item
  kind : RecordKind
  type : TypeRef
  parent : Option String
  symbolStem : String
  typeGetter : String
  typeStruct : Option String
  methods : List Callable
  functions : List Callable
  constructors : List Callable
  signals : List Callable
  properties : List Property
  fields : List Property
  implements : List String
  records : List Record
deriving Repr, Inhabited

namespace Record

/-- The parent of a class, or the prerequisite of an interface. -/
def parentOf (kind : RecordKind) (e : Element) : Option String :=
  if kind.inherits then
    match e.attribute? "parent" with
    | some parent =>
      if parent = "" then (e.child? "prerequisite").bind fun p => p.attribute? "name" else some parent
    | none => (e.child? "prerequisite").bind fun p => p.attribute? "name"
  else none

def callablesOf (e : Element) (name : String) (kind : CallableKind) : Warned (List Callable) :=
  Warned.collect ((e.childrenNamed name).mapIdx fun i c => Callable.ofElement kind c i)

def outline (kind : RecordKind) (e : Element) (index : Nat) : Warned Record := do
  let item := Item.ofElement e index
  let methods ← callablesOf e "method" .method
  let functions ← callablesOf e "function" .function
  let constructors ← callablesOf e "constructor" .constructor
  let signals ← callablesOf e "signal" .signal
  return {
    item, kind, methods, functions, constructors, signals
    type := { TypeRef.of item.name e.spelling with identifier := e.attribute? "type-name" }
    parent := parentOf kind e
    symbolStem := (e.attribute? "symbol-prefix").getD ""
    typeGetter := (e.attribute? "get-type").getD ""
    typeStruct := e.attribute? "type-struct"
    properties := (e.childrenNamed "property").mapIdx fun i p => .ofElement .property p i
    fields := (e.childrenNamed "field").mapIdx fun i f => .ofElement .field f i
    implements := (e.childrenNamed "implements").filterMap fun i => i.attribute? "name"
    records := [] }

/-- Only records and unions nest. -/
def nestedKind? (e : Element) : Option RecordKind :=
  if e.name = "record" then some .record else if e.name = "union" then some .union else none

mutual

def ofElement (kind : RecordKind) (e : Element) (index : Nat) : Warned Record :=
  match e with
  | .mk name qualifiedName attributes children text => do
    let record ← outline kind ⟨name, qualifiedName, attributes, children, text⟩ index
    let records ← nestedFrom 0 children
    return { record with records }

def nestedFrom (index : Nat) (elements : List Element) : Warned (List Record) :=
  match elements with
  | [] => pure []
  | e :: rest =>
    match nestedKind? e with
    | none => nestedFrom index rest
    | some kind => do
      let record ← ofElement kind e index
      let records ← nestedFrom (index + 1) rest
      return record :: records

end

def name (r : Record) : String := r.item.name

/-- The name without an ending that marks a companion of another type, unless nothing would be left. -/
def nodeName (r : Record) : String :=
  (["Private", "Class", "Iface"].findSome? fun ending =>
    (withoutEnding? ending r.name).filter fun stem => stem != "").getD r.name

def className (r : Record) : String := pascalCase r.name

def referenceName (r : Record) : String := r.className ++ "Ref"

def protocolName (r : Record) : String := r.className ++ "Protocol"

def pointerName (r : Record) : String := snakeCase r.nodeName ++ "_ptr"

def callables (r : Record) : List Callable := r.constructors ++ r.methods ++ r.functions

def declaresProperty (r : Record) (name : String) : Bool := r.properties.any fun p => p.name == name

end Record

end Introspection
