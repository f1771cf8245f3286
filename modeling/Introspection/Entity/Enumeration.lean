import Introspection.Entity.Slot
import Introspection.Naming

set_option autoImplicit false

namespace Introspection

open Markup Text

structure Alias where
  item : Item
  slot : Slot
  target : TypeRef
deriving Repr, Inhabited

def Alias.ofElement (e : Element) (index : Nat) : Alias where
  item := .ofElement e index
  slot := .ofElement e
  target := (Slot.ofChildren e).type

structure Constant where
  item : Item
  slot : Slot
  value : Int
  literal : Option String
deriving Repr, Inhabited

namespace Constant

/-- A position as a value. Values are 64-bit words with a sign, so positions from half the range on come out
    negative. -/
def positionValue (index : Nat) : Int := Int.bmod index (Nat.pow 2 64)

def valueOf (e : Element) (index : Nat) : Int :=
  ((e.attribute? "value").bind int64?).getD (positionValue index)

def ofElement (e : Element) (index : Nat) : Constant where
  item := .ofElement e index
  slot :=
    let slot := Slot.ofChildren e
    { slot with type := { slot.type with identifier := e.attribute? "type" } }
  value := valueOf e index
  literal := e.attribute? "value"

def ofMember (e : Element) (index : Nat) (parent : TypeRef) : Constant where
  item := .ofElement e index
  slot := { type := { parent with identifier := e.attribute? "identifier" } }
  value := valueOf e index
  literal := e.attribute? "value"

end Constant

structure Enumeration where
  item : Item
  type : TypeRef
  members : List Constant
  typeGetter : Option String
deriving Repr, Inhabited

namespace Enumeration

def ofElement (e : Element) (index : Nat) : Enumeration :=
  let item := Item.ofElement e index
  let type := TypeRef.of item.name ((e.attribute? "type").getD "")
  { item, type
    members := (e.childrenNamed "member").mapIdx fun i m => .ofMember m i type
    typeGetter := e.attribute? "get-type" }

/-- The name of the type in generated code. -/
def symbolicName (e : Enumeration) : String := pascalCase e.item.name

def member? (e : Enumeration) (name : String) : Option Constant :=
  e.members.find? fun m => m.item.name == name

end Enumeration

end Introspection
