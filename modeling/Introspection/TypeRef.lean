import Introspection.Fundamental
import Introspection.Text.Split

set_option autoImplicit false

namespace Introspection

open Text

structure TypeRef where
  /-- The name, with its namespace in front if it is qualified. -/
  name : String := ""
  spelling : String := ""
  identifier : Option String := none
  isConst : Bool := false
  isOptional : Bool := false
  isArray : Bool := false
deriving DecidableEq, Repr, Inhabited

def endsToken (c : Char) : Bool := isBlank c || c == '*'

def spellingTokens (spelling : String) : List (List Char) := spelling.toList.splitOnP endsToken

def baseName (name : String) : String := afterLast "." name

namespace TypeRef

def of (name spelling : String) : TypeRef :=
  { name, spelling, isConst := (spellingTokens spelling).contains "const".toList }

def void : TypeRef := of "none" "void"

/-- The same type one pointer deeper. -/
def pointer (t : TypeRef) : TypeRef := { t with spelling := trimEnd t.spelling ++ "*" }

def base (t : TypeRef) : String := baseName t.name

def qualifier? (t : TypeRef) : Option String := beforeLast? "." t.name

def level (t : TypeRef) : Nat := t.spelling.toList.count '*'

def isBaseToken (token : List Char) : Bool :=
  !token.isEmpty && token != "const".toList && token != "volatile".toList

/-- The spelling without qualifiers and stars, its words one space apart. -/
def baseSpelling (t : TypeRef) : String :=
  String.ofList ([' '].intercalate ((spellingTokens t.spelling).filter isBaseToken))

def baseOrName (t : TypeRef) : String :=
  if t.baseSpelling = "" then t.base else t.baseSpelling

def fullSpelling (t : TypeRef) : String :=
  (if t.isConst then "const " else "") ++ t.baseOrName ++ String.ofList (List.replicate t.level '*')

def voidNames : List String := ["none", "void", "Void"]

def genericPointerNames : List String := ["gpointer", "gconstpointer"]

def isVoid (t : TypeRef) : Bool :=
  t.level == 0 && (voidNames.contains t.name || (t.name == "" && t.baseSpelling == "void"))

/-- An untyped pointer that is not pointed at in turn. -/
def isGenericPointer (t : TypeRef) : Bool :=
  t.level == 0 && (genericPointerNames.contains t.base || genericPointerNames.contains t.baseSpelling)

def isDirectPointerTo (t target : TypeRef) : Bool :=
  t.base == target.base && t.level == target.level + 1

def fundamental? (t : TypeRef) : Option Fundamental := Fundamental.ofName? t.name

def callbackEndings : List String := ["Func", "Callback", "Notify"]

/-- A pointer by its spelling, by its name, or by naming a callback. -/
def isPointerLike (t : TypeRef) : Bool :=
  0 < t.level || t.isGenericPointer || callbackEndings.any fun ending => endsWith ending t.base

def display (t : TypeRef) : String :=
  if t.spelling = "" then t.name else t.name ++ " (" ++ t.fullSpelling ++ ")"

end TypeRef

end Introspection
