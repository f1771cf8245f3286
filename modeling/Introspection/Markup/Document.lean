import Introspection.Markup.Element
import Introspection.Markup.Event
import Introspection.Text.Split

set_option autoImplicit false

namespace Introspection.Markup

open Text

structure Assembly where
  root : Option Element := none
  /-- Open elements, innermost first. -/
  pending : List Element := []

namespace Assembly

def attach (a : Assembly) (e : Element) : Assembly :=
  match a.pending with
  | [] => { a with root := a.root.or (some e) }
  | parent :: rest => { a with pending := { parent with children := parent.children ++ [e] } :: rest }

/-- Text outside all elements is dropped. -/
def addText (a : Assembly) (content : List Char) : Assembly :=
  match a.pending with
  | [] => a
  | current :: rest =>
    { a with pending := { current with text := current.text ++ String.ofList content } :: rest }

end Assembly

def attributeOfRaw (raw : RawAttribute) : Except EscapeFault (String × String) :=
  (decodeValue raw.value).map fun value => (localName (String.ofList raw.key), String.ofList value)

def Element.ofTag (tag : Tag) : Except EscapeFault Element := do
  let attributes ← (scanAttributes [] tag.attributeText).mapM attributeOfRaw
  let qualifiedName := String.ofList tag.qualifiedName
  return { name := localName qualifiedName, qualifiedName, attributes }

namespace Assembly

def step (a : Assembly) : Event → Except DocumentFault Assembly
  | .text content => .ok (a.addText content)
  | .reference body => .ok (a.addText (referenceInText body))
  | .silent => .ok a
  | .start tag =>
    match Element.ofTag tag with
    | .ok e => .ok { a with pending := e :: a.pending }
    | .error fault => .error (.escape fault)
  | .whole tag =>
    match Element.ofTag tag with
    | .ok e => .ok (a.attach e)
    | .error fault => .error (.escape fault)
  | .close qualifiedName =>
    let name := String.ofList qualifiedName
    match a.pending with
    | [] => .error (.malformed (.strayClose name))
    | e :: rest =>
      if e.qualifiedName = name then .ok ({ a with pending := rest }.attach { e with text := trim e.text })
      else .error (.malformed (.wrongClose e.qualifiedName name))

def finish (a : Assembly) : Except DocumentFault Element :=
  match a.pending, a.root with
  | e :: _, _ => .error (.shape (.neverClosed e.qualifiedName))
  | [], some root => .ok root
  | [], none => .error (.shape .noRoot)

def read (a : Assembly) (cs : List Char) : Except DocumentFault Element :=
  match hnext : nextEvent cs with
  | none => a.finish
  | some (.error fault) => .error (.malformed fault)
  | some (.ok (event, rest)) =>
    have : rest.length < cs.length := nextEvent_length_lt hnext
    match a.step event with
    | .ok b => b.read rest
    | .error fault => .error fault
termination_by cs.length

end Assembly

/-- A byte order mark in front of the document is not part of it. -/
def withoutMark : List Char → List Char
  | [] => []
  | c :: cs => if c = '\uFEFF' then cs else c :: cs

def readDocument (text : String) : Except DocumentFault Element :=
  ({} : Assembly).read (withoutMark text.toList)

end Introspection.Markup
