import Introspection.Entity.Item
import Introspection.TypeRef

set_option autoImplicit false

namespace Introspection

open Markup Text

namespace Markup.Element

def spelling (e : Element) : String := ((e.attribute? "type").or (e.attribute? "type-name")).getD ""

def ownType (e : Element) : TypeRef :=
  { TypeRef.of ((e.attribute? "name").getD "") e.spelling with isArray := e.name == "array" }

def containedTypes (e : Element) : List TypeRef :=
  (e.children.filter fun c => c.name == "type" || c.name == "array").map ownType

def fixedSize? (e : Element) : Option Nat := (e.attribute? "fixed-size").bind size64?

end Markup.Element

structure Slot where
  type : TypeRef
  contained : List TypeRef := []
  scope : Option String := none
  isReadable : Bool := true
  isWritable : Bool := false
  isPrivate : Bool := false
  tupleSize : Option Nat := none
deriving DecidableEq, Repr, Inhabited

namespace Slot

/-- Everything but the type, which is void. -/
def withAccess (e : Element) : Slot where
  type := .void
  scope := e.attribute? "scope"
  isReadable := e.numericFlag "readable" true
  isWritable := e.numericFlag "writable" false
  isPrivate := e.numericFlag "private" false

def ofElement (e : Element) : Slot :=
  { withAccess e with
    type := e.ownType
    contained := if e.name == "array" then e.containedTypes else []
    tupleSize := e.fixedSize? }

def ofChildren (e : Element) : Slot :=
  match e.child? "array" with
  | some array =>
    { withAccess e with
      type := array.ownType
      contained := array.containedTypes
      tupleSize := array.fixedSize? }
  | none =>
    match e.child? "type" with
    | some type => { withAccess e with type := type.ownType }
    | none => withAccess e

def isArray (s : Slot) : Bool := s.type.isArray || !s.contained.isEmpty

def isVoid (s : Slot) : Bool := s.type.isVoid && s.tupleSize.getD 0 == 0

def isPointerLike (s : Slot) : Bool := s.type.isPointerLike

/-- An array whose elements are no pointers. -/
def isScalarArray (s : Slot) : Bool :=
  s.isArray &&
    match s.contained with
    | element :: _ => !element.isPointerLike
    | [] => s.type.level ≤ 1 && !s.type.isGenericPointer

end Slot

end Introspection
