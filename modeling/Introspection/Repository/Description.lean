import Introspection.Entity.Declaration
import Introspection.Markup.Document
import Introspection.Repository.Basic

set_option autoImplicit false

namespace Introspection

open Markup

structure Description where
  headers : List String
  includes : List Include
  namespaces : List Element

namespace Description

def headersOf (root : Element) : List String :=
  (root.children.filter fun c => c.qualifiedName == "c:include").filterMap fun c => c.attribute? "name"

def includesOf (root : Element) : List Include :=
  (root.children.filter fun c => c.qualifiedName == "include").filterMap fun c =>
    (c.attribute? "name").map fun name => ⟨name, c.attribute? "version"⟩

def ofElement (root : Element) : Except ShapeFault Description :=
  if root.name = "repository" then
    match root.childrenNamed "namespace" with
    | [] => .error .noNamespace
    | namespaces => .ok ⟨headersOf root, includesOf root, namespaces⟩
  else .error (.wrongRoot root.qualifiedName)

def read (text : String) : Except DocumentFault Description := do
  let root ← readDocument text
  (ofElement root).mapError .shape

end Description

inductive Stage where
  | aliases
  | constants
  | enumerations
  | records
  | classes
  | callbacks
deriving DecidableEq, Repr

namespace Stage

def all : List Stage := [aliases, constants, enumerations, records, classes, callbacks]

def elementNames : Stage → List String
  | aliases => ["alias"]
  | constants => ["constant"]
  | enumerations => ["enumeration", "bitfield"]
  | records => ["record", "union"]
  | classes => ["class", "interface"]
  | callbacks => ["callback"]

def takes (s : Stage) (e : Element) : Bool := s.elementNames.contains e.name

def declare (s : Stage) (e : Element) (index : Nat) : Warned Declaration :=
  match s with
  | aliases => pure (.typeAlias (.ofElement e index))
  | constants => pure (.constant (.ofElement e index))
  | enumerations =>
    if e.name = "bitfield" then pure (.bitfield (.ofElement e index))
    else pure (.enumeration (.ofElement e index))
  | records => .record <$> Record.ofElement (if e.name = "union" then .union else .record) e index
  | classes =>
    .record <$> Record.ofElement (if e.name = "interface" then .interface else .objectClass) e index
  | callbacks => .callback <$> Callable.ofElement .callback e index

end Stage

/-- An element that declares something, with its position among those of its stage. -/
structure Declared where
  stage : Stage
  element : Element
  index : Nat

namespace Declared

/-- The declaration, with a warning in front if it has to do without a name. -/
def read (d : Declared) : Warned Declaration :=
  let declared := d.stage.declare d.element d.index
  match d.element.attribute? "name" with
  | some _ => declared
  | none => ⟨declared.value, .missing d.element.name "name" (unnamed d.index) :: declared.warnings⟩

def ofStage (space : Element) (stage : Stage) : List Declared :=
  (space.children.filter stage.takes).mapIdx fun i e => ⟨stage, e, i⟩

def all (space : Element) : List Declared := Stage.all.flatMap (ofStage space)

end Declared

end Introspection
