import Introspection.Registry.Basic

set_option autoImplicit false

namespace Introspection

open Text

inductive Bridge where
  | void
  /-- A known record, an untyped pointer on the C side and its reference view on the other. -/
  | record (handle : String)
  /-- A known bitfield, with the raw name that its symbolic name converts to. -/
  | bitfield (symbolic : String) (raw : Option String)
  | enumeration (symbolic : String)
  /-- A known alias, which has no bridge of its own. -/
  | typeAlias (name : String)
  | fundamental (f : Fundamental)
  | verbatim (type : String)
deriving DecidableEq, Repr

/-- What a bridge is decided by: the known declarations and the path of the C declarations. -/
structure Boundary where
  registry : Registry
  ffi : String

def enumType : String := "u32"

namespace Boundary

def handleName (b : Boundary) (name : String) : String :=
  match b.registry.referenceFor? name with
  | some view => view.name
  | none =>
    match b.registry.record? name with
    | some record => record.referenceName
    | none => pascalCase (baseName name) ++ "Ref"

def selfHandle (b : Boundary) (record : Record) : String := b.handleName record.name

def isConstPointer (t : TypeRef) : Bool := t.isConst || contains "const" t.spelling

/-- An unknown type, as a path below the C declarations. -/
def verbatimType (b : Boundary) (t : TypeRef) : String :=
  let pointer := if isConstPointer t then "*const " else "*mut "
  String.join (List.replicate t.level pointer) ++ b.ffi ++ "::" ++ t.baseOrName

/-- Whether the spelling has the pointers that the fundamental type implies. -/
def fits (t : TypeRef) (f : Fundamental) : Bool :=
  t.spelling == "" || t.level == if f.isString then 1 else 0

def bitfieldBridge (b : Boundary) (t : TypeRef) : Bridge :=
  let symbolic :=
    match b.registry.bitfield? t.name with
    | some bitfield => bitfield.symbolicName
    | none => pascalCase t.base
  .bitfield symbolic ((b.registry.conversions.leaving symbolic).head?.map Conversion.target)

def enumerationBridge (b : Boundary) (t : TypeRef) : Bridge :=
  match b.registry.enumeration? t.name with
  | some e => .enumeration e.symbolicName
  | none => .enumeration (pascalCase t.base)

def fundamentalBridge (b : Boundary) (t : TypeRef) : Bridge :=
  match t.fundamental? with
  | some f => if fits t f then .fundamental f else .verbatim (b.verbatimType t)
  | none => .verbatim (b.verbatimType t)

def bridge (b : Boundary) (t : TypeRef) : Bridge :=
  if t.isVoid then .void
  else
    match b.registry.classify t with
    | .record => .record (b.handleName t.name)
    | .bitfield => b.bitfieldBridge t
    | .enumeration => b.enumerationBridge t
    | .typeAlias => .typeAlias t.name
    | .fundamental => b.fundamentalBridge t

def idiomatic : Bridge → String
  | .void => "()"
  | .record handle => handle
  | .bitfield symbolic _ => symbolic
  | .enumeration symbolic => symbolic
  | .typeAlias name => pascalCase (baseName name)
  | .fundamental f => f.idiomatic
  | .verbatim type => type

def abi (b : Boundary) (bridge : Bridge) : String :=
  match bridge with
  | .record _ => b.ffi ++ "::gpointer"
  | .bitfield _ _ | .enumeration _ => enumType
  | .fundamental f => f.abi
  | .void | .typeAlias _ | .verbatim _ => idiomatic bridge

/-- Turns an expression of the C side into one of the handler's side. -/
def receive (b : Boundary) (bridge : Bridge) (expression : String) : String :=
  match bridge with
  | .record handle => handle ++ "::from_raw(" ++ expression ++ ".cast())"
  | .bitfield symbolic raw =>
    (raw.bind fun raw => b.registry.conversions.convert? expression raw symbolic).getD
      (symbolic ++ "::from_bits_retain(" ++ expression ++ ")")
  | .enumeration symbolic => symbolic ++ "::from(" ++ expression ++ ")"
  | .fundamental f => f.receive expression
  | .void | .typeAlias _ | .verbatim _ => expression

/-- Turns an expression of the handler's side into one of the C side. -/
def send (b : Boundary) (bridge : Bridge) (expression : String) : String :=
  match bridge with
  | .record _ => expression ++ ".as_ptr().cast()"
  | .bitfield symbolic raw =>
    (raw.bind fun raw => b.registry.conversions.convert? expression symbolic raw).getD
      (expression ++ ".bits()")
  | .enumeration _ => enumType ++ "::from(" ++ expression ++ ")"
  | .fundamental f => f.send expression
  | .void | .typeAlias _ | .verbatim _ => expression

end Boundary

end Introspection
