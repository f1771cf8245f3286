import Introspection.Markup.Element
import Introspection.Text.Number

set_option autoImplicit false

namespace Introspection

open Markup Text

/-- The name given to a declaration that has none, by its position. -/
def unnamed (index : Nat) : String := "Unknown" ++ toString index

namespace Markup.Element

/-- A flag written as an integer; any integer but zero sets it. -/
def numericFlag (e : Element) (name : String) (default : Bool) : Bool :=
  match (e.attribute? name).bind int64? with
  | some value => value != 0
  | none => default

end Markup.Element

/-- A flag that is set unless it is absent, empty, `0` or `false`. -/
def looseFlag (value : Option String) : Bool :=
  match value with
  | some value => value != "" && value != "0" && value != "false"
  | none => false

structure Item where
  name : String
  comment : String := ""
  isIntrospectable : Bool := true
  isDisguised : Bool := false
  deprecated : Option String := none
  isMarkedDeprecated : Bool := false
  version : Option String := none
deriving Repr, Inhabited

namespace Item

def defaultNote : String := "This item is deprecated."

def ofElement (e : Element) (index : Nat) : Item where
  name := (e.attribute? "name").getD (unnamed index)
  comment := e.doc
  isIntrospectable := e.attribute? "introspectable" != some "0"
  isDisguised := e.isSet "disguised"
  deprecated := e.deprecation?.or (if e.isSet "deprecated" then some defaultNote else none)
  isMarkedDeprecated := e.isSet "deprecated"
  version := e.attribute? "version"

def isSame (a b : Item) : Bool := a.name == b.name

def order (a b : Item) : Ordering := compareOfLessAndEq a.name b.name

def distinct (items : List Item) : Nat := (items.map name).eraseDups.length

def sorted (items : List Item) : List Item := items.mergeSort fun a b => decide (a.name ≤ b.name)

end Item

end Introspection
