import Introspection.Markup.Element
import Introspection.Text.Split

set_option autoImplicit false

namespace Introspection.Markup

open Text

/-- What a name may begin with, the colon apart. -/
def nameStartRuns : List Run := [
  ⟨0x41, 0x5A, 1⟩, ⟨0x5F, 0x5F, 1⟩, ⟨0x61, 0x7A, 1⟩, ⟨0xC0, 0xD6, 1⟩, ⟨0xD8, 0xF6, 1⟩, ⟨0xF8, 0x2FF, 1⟩,
  ⟨0x370, 0x37D, 1⟩, ⟨0x37F, 0x1FFF, 1⟩, ⟨0x200C, 0x200D, 1⟩, ⟨0x2070, 0x218F, 1⟩, ⟨0x2C00, 0x2FEF, 1⟩,
  ⟨0x3001, 0xD7FF, 1⟩, ⟨0xF900, 0xFDCF, 1⟩, ⟨0xFDF0, 0xFFFD, 1⟩, ⟨0x10000, 0xEFFFF, 1⟩]

/-- What a name may have in it besides: hyphen, full stop, digits, and marks that join. -/
def nameRestRuns : List Run := [
  ⟨0x2D, 0x2E, 1⟩, ⟨0x30, 0x39, 1⟩, ⟨0xB7, 0xB7, 1⟩, ⟨0x300, 0x36F, 1⟩, ⟨0x203F, 0x2040, 1⟩]

def isNameStart (c : Char) : Bool := inRuns nameStartRuns c

def isNameChar (c : Char) : Bool := isNameStart c || inRuns nameRestRuns c

def isPlainName : List Char → Bool
  | [] => false
  | c :: cs => isNameStart c && cs.all isNameChar

structure PlainName where
  chars : List Char
  valid : isPlainName chars = true

structure QualifiedName where
  space : Option PlainName := none
  base : PlainName

namespace QualifiedName

def written (n : QualifiedName) : List Char :=
  match n.space with
  | some space => space.chars ++ ':' :: n.base.chars
  | none => n.base.chars

end QualifiedName

structure Heading where
  name : QualifiedName
  attributes : List (QualifiedName × String) := []
  distinct : (attributes.map fun entry => entry.1.written).Nodup := by decide

structure TrimmedText where
  content : String
  trimmed : trim content = content := by decide

inductive Written where
  | brief (heading : Heading)
  | full (heading : Heading) (text : TrimmedText) (children : List Written)

def escapeChar (c : Char) : List Char :=
  if c = '&' then "&amp;".toList
  else if c = '<' then "&lt;".toList
  else if c = '>' then "&gt;".toList
  else if c = '"' then "&quot;".toList
  else if c = '\'' then "&apos;".toList
  else [c]

def escape (content : List Char) : List Char := content.flatMap escapeChar

def attributeChars (entry : QualifiedName × String) : List Char :=
  ' ' :: entry.1.written ++ '=' :: '"' :: escape entry.2.toList ++ ['"']

namespace Heading

def chars (h : Heading) : List Char := h.name.written ++ h.attributes.flatMap attributeChars

/-- The element that the tag begins: names of elements and attributes lose their prefix. -/
def toElement (h : Heading) : Element where
  name := String.ofList h.name.base.chars
  qualifiedName := String.ofList h.name.written
  attributes := h.attributes.map fun entry => (String.ofList entry.1.base.chars, entry.2)

end Heading

namespace Written

mutual

def chars : Written → List Char
  | brief heading => '<' :: heading.chars ++ ['/', '>']
  | full heading text children =>
    '<' :: heading.chars ++ '>' :: escape text.content.toList ++ charsOfAll children ++ '<' :: '/' :: heading.name.written
      ++ ['>']

def charsOfAll : List Written → List Char
  | [] => []
  | w :: ws => chars w ++ charsOfAll ws

end

mutual

def toElement : Written → Element
  | brief heading => heading.toElement
  | full heading text children => { heading.toElement with text := text.content, children := toElements children }

def toElements : List Written → List Element
  | [] => []
  | w :: ws => toElement w :: toElements ws

end

def render (w : Written) : String := String.ofList w.chars

end Written

end Introspection.Markup
