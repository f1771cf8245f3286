import Introspection.Text.Split

set_option autoImplicit false

namespace Introspection.Markup

open Text

/-- What follows the first colon, or the whole name. -/
def localName (name : String) : String :=
  match splitFirst [':'] name.toList with
  | some (_, after) => String.ofList after
  | none => name

structure Element where
  name : String
  qualifiedName : String
  attributes : List (String × String) := []
  children : List Element := []
  text : String := ""
deriving BEq, Repr, Inhabited

namespace Element

def named (name : String) : Element := { name, qualifiedName := name }

def attribute? (e : Element) (name : String) : Option String := e.attributes.lookup name

/-- Whether the attribute is `1` or `true`. -/
def isSet (e : Element) (name : String) : Bool :=
  match e.attribute? name with
  | some value => value == "1" || value == "true"
  | none => false

def childrenNamed (e : Element) (name : String) : List Element := e.children.filter fun c => c.name == name

def child? (e : Element) (name : String) : Option Element := e.children.find? fun c => c.name == name

def documentation (e : Element) (name : String) : String :=
  String.intercalate "\n" ((e.childrenNamed name).map text)

def doc (e : Element) : String := e.documentation "doc"

def deprecation? (e : Element) : Option String :=
  let note := e.documentation "doc-deprecated"
  if note = "" then none else some note

end Element

end Introspection.Markup
