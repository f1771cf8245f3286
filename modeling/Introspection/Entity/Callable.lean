import Introspection.Entity.Slot
import Introspection.Passing
import Introspection.Warning

set_option autoImplicit false

namespace Introspection

open Markup Text

structure Argument where
  item : Item
  slot : Slot
  isInstance : Bool := false
  hasVarargs : Bool := false
  isNullable : Bool := false
  allowsNone : Bool := false
  isOptional : Bool := false
  callerAllocates : Bool := false
  transfer : Transfer := .none
  direction : Direction := .input
deriving Repr, Inhabited

namespace Argument

def void : Argument where
  item := { name := "return" }
  slot := { type := .void }

/-- Reads an attribute through `parse?`, with a warning and the default if that fails. -/
def reading {α : Type} (e : Element) (key : String) (parse? : String → Option α) (default : α)
    (fallback : String) : Warned α :=
  match e.attribute? key with
  | none => ⟨default, []⟩
  | some value =>
    match parse? value with
    | some a => ⟨a, []⟩
    | none => ⟨default, [.invalid e.name key value fallback]⟩

def transferOf (e : Element) : Warned Transfer :=
  reading e "transfer-ownership" Transfer.ofSpelling? .none Transfer.none.spelling

def directionOf (e : Element) : Warned Direction :=
  reading e "direction" Direction.ofSpelling? .input Direction.input.spelling

/-- A return value without a name is called `return`. -/
def itemOf (e : Element) (index : Nat) : Item :=
  let item := Item.ofElement e index
  if e.name = "return-value" ∧ e.attribute? "name" = none then { item with name := "return" } else item

def ofElement (e : Element) (index : Nat) : Warned Argument := do
  let transfer ← transferOf e
  let direction ← directionOf e
  let allowNone := e.attribute? "allow-none"
  let isNullable := looseFlag ((e.attribute? "nullable").or allowNone)
  let isOptional := looseFlag ((e.attribute? "optional").or allowNone)
  let slot := Slot.ofChildren e
  return {
    item := itemOf e index
    slot := { slot with type := { slot.type with isOptional := isNullable || isOptional } }
    isInstance := beginsWith "instance" e.name
    hasVarargs := (e.child? "varargs").isSome
    isNullable
    allowsNone := looseFlag allowNone
    isOptional
    callerAllocates := looseFlag (e.attribute? "caller-allocates")
    transfer
    direction }

def name (a : Argument) : String := a.item.name

def type (a : Argument) : TypeRef := a.slot.type

def isVarargs (a : Argument) : Bool := a.hasVarargs || beginsWith "..." a.name

def isArray (a : Argument) : Bool := a.slot.isArray

end Argument

inductive CallableKind where
  | method
  | function
  | constructor
  | callback
  | signal
deriving DecidableEq, Repr, Inhabited

def CallableKind.title : CallableKind → String
  | .method => "Method"
  | .function => "Function"
  | .constructor => "Constructor"
  | .callback => "Callback"
  | .signal => "Signal"

structure Callable where
  item : Item
  kind : CallableKind
  symbol : String
  /-- The callback's own type, or else the type of what is returned. -/
  type : TypeRef
  returns : Argument
  arguments : List Argument
  canThrow : Bool
deriving Repr, Inhabited

namespace Callable

def returnOf (e : Element) : Warned Argument :=
  match e.child? "return-value" with
  | some value => Argument.ofElement value 0
  | none => pure .void

/-- Parameters stand in a group of their own, or else directly in the callable. -/
def argumentsOf (e : Element) : Warned (List Argument) :=
  let group := (e.child? "parameters").getD e
  let parameters := group.children.filter fun c => c.name == "parameter" || c.name == "instance-parameter"
  Warned.collect (parameters.mapIdx fun i p => Argument.ofElement p i)

def ofElement (kind : CallableKind) (e : Element) (index : Nat) : Warned Callable := do
  let returns ← returnOf e
  let arguments ← argumentsOf e
  return {
    item := .ofElement e index
    kind
    symbol := (e.attribute? "identifier").getD ""
    type := if kind = .callback then e.ownType else returns.type
    returns
    arguments
    canThrow := e.numericFlag "throws" false }

def name (c : Callable) : String := c.item.name

def isVarargs (c : Callable) : Bool := c.arguments.any Argument.isVarargs

def isRef (c : Callable) : Bool := c.arguments.length == 1 && c.name == "ref"

def isUnref (c : Callable) : Bool := c.arguments.length == 1 && c.name == "unref"

def isGetter (c : Callable) : Bool :=
  c.arguments.length == 1 && (beginsWith "get_" c.name || beginsWith "is_" c.name)

def isSetter (c : Callable) : Bool := c.arguments.length == 2 && beginsWith "set_" c.name

def afterLetter? (name : String) : Option String :=
  match name.toList with
  | [] => none
  | c :: cs => if c.utf8Size = 1 then some (String.ofList cs) else none

/-- Whether the names differ in their first letter only, which here is `letter`. -/
def pairsWith (c : Callable) (letter other : String) : Bool :=
  match afterLetter? other with
  | some rest => withoutBeginning? letter c.name == some rest
  | none => false

def isSetterFor (c : Callable) (getter : String) : Bool := c.arguments.length == 2 && c.pairsWith "s" getter

def isGetterFor (c : Callable) (setter : String) : Bool := c.arguments.length == 1 && c.pairsWith "g" setter

end Callable

end Introspection
