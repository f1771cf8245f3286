import Introspection.Markup.Reference

set_option autoImplicit false

namespace Introspection.Markup

inductive SyntaxFault where
  | openReference
  | openTag
  | openQuote (quote : Char)
  | unknownMarkup
  | openComment
  | openSection
  | openDoctype
  | namelessDoctype
  | openDeclaration
  | openInstruction
  | strayClose (name : String)
  | wrongClose (expected found : String)
deriving DecidableEq, Repr

def notFound (what mark : String) : String :=
  what ++ " not closed: `" ++ mark ++ "` not found before end of input"

def SyntaxFault.message : SyntaxFault → String
  | .openReference => "ill-formed document: " ++ notFound "entity or character reference" ";"
  | .openTag => "syntax error: " ++ notFound "tag" ">"
  | .openQuote quote => "syntax error: " ++ notFound "attribute value" (String.ofList [quote])
  | .unknownMarkup => "syntax error: unknown or missed symbol in markup"
  | .openComment => "syntax error: " ++ notFound "comment" "-->"
  | .openSection => "syntax error: " ++ notFound "CDATA" "]]>"
  | .openDoctype => "syntax error: " ++ notFound "DOCTYPE" ">"
  | .namelessDoctype =>
    "ill-formed document: `<!DOCTYPE>` declaration does not contain a name of a document type"
  | .openDeclaration => "syntax error: " ++ notFound "XML declaration" "?>"
  | .openInstruction => "syntax error: " ++ notFound "processing instruction" "?>"
  | .strayClose name => "ill-formed document: close tag `</" ++ name ++ ">` does not match any open tag"
  | .wrongClose expected found =>
    "ill-formed document: expected `</" ++ expected ++ ">`, but `</" ++ found ++ ">` was found"

/-- Faults of a well-formed text that is not the document it should be. -/
inductive ShapeFault where
  | neverClosed (qualifiedName : String)
  | noRoot
  | wrongRoot (qualifiedName : String)
  | noNamespace
deriving DecidableEq, Repr

def ShapeFault.message : ShapeFault → String
  | .neverClosed qualifiedName => "element <" ++ qualifiedName ++ "> is never closed"
  | .noRoot => "document has no root element"
  | .wrongRoot qualifiedName => "expected <repository> root element, found <" ++ qualifiedName ++ ">"
  | .noNamespace => "no <namespace> element found"

inductive FileFault where
  | missing
  | notText
deriving DecidableEq, Repr

def FileFault.message : FileFault → String
  | .missing => "No such file or directory (os error 2)"
  | .notText => "stream did not contain valid UTF-8"

inductive DocumentFault where
  | malformed (fault : SyntaxFault)
  | escape (fault : EscapeFault)
  | shape (fault : ShapeFault)
  | file (fault : FileFault)
deriving DecidableEq, Repr

def DocumentFault.message : DocumentFault → String
  | .malformed fault => "XML parsing error: " ++ fault.message
  | .escape fault => "XML escape error: " ++ fault.message
  | .shape fault => "invalid interface description: " ++ fault.message
  | .file fault => "IO error: " ++ fault.message

end Introspection.Markup
