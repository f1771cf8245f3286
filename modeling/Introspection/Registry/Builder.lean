import Introspection.Registry.Basic

/-!
Building a registry. A declaration is accepted under its own name if that name is free, together with its
qualified name and the views of its kind; otherwise it is rejected with a warning and nothing else changes.
Every table is filled under the same rule, so the first registration of a name stays.
-/

set_option autoImplicit false

namespace Introspection

structure ViewNames where
  raw : String
  ofClass : String
  ofReference : String
  ofProtocol : String
deriving DecidableEq, Repr

def Record.viewNames (r : Record) : ViewNames := ⟨r.name, r.className, r.referenceName, r.protocolName⟩

def qualify (space name : String) : String := space ++ "." ++ name

def ViewNames.within (v : ViewNames) (space : String) : ViewNames :=
  ⟨qualify space v.raw, qualify space v.ofClass, qualify space v.ofReference, qualify space v.ofProtocol⟩

namespace Registry

def addViews (r : Registry) (record : Record) (v : ViewNames) : Registry :=
  let protocol := TypeRef.of record.protocolName ""
  let ofClass := TypeRef.of record.className record.type.spelling
  let reference := TypeRef.of record.referenceName ""
  { r with
    recordNames := insertMember r.recordNames v.raw
    protocols :=
      ((r.protocols.insertNew v.raw protocol).insertNew v.ofClass ofClass).insertNew v.ofReference protocol
    references := r.references.insertAllNew [v.raw, v.ofClass, v.ofReference, v.ofProtocol] reference
    referents := r.referents.insertAllNew [v.ofProtocol, v.ofClass, v.ofReference, v.raw] record.type }

def namesWithin (space : Option String) (name : String) : List String :=
  match space with
  | some space => [name, qualify space name]
  | none => [name]

def addRecord (r : Registry) (space : Option String) (record : Record) : Registry :=
  match space with
  | some space => (r.addViews record record.viewNames).addViews record (record.viewNames.within space)
  | none => r.addViews record record.viewNames

def addEnumeration (r : Registry) (space : Option String) (e : Enumeration) : Registry :=
  { r with enumNames := (namesWithin space e.item.name).foldl insertMember r.enumNames }

/-- The C name of a bitfield: its spelling, or else its name with the namespace in front. -/
def rawName (space : Option String) (b : Enumeration) : String :=
  if b.type.baseSpelling = "" then space.getD "" ++ b.item.name else b.type.baseSpelling

def bitfieldConversions (raw symbolic : String) : Except TemplateFault (Conversion × Conversion) := do
  let forward ← Conversion.ofTemplate raw symbolic (symbolic ++ "::from_bits_retain(" ++ hole ++ ")")
  let backward ← Conversion.ofTemplate symbolic raw (hole ++ ".bits()")
  return (forward, backward)

def addConversions (t : ConversionTable) (raw symbolic : String) : ConversionTable :=
  if raw = symbolic then t
  else
    match bitfieldConversions raw symbolic with
    | .ok (forward, backward) => t.insertPair forward backward
    | .error _ => t

def addBitfield (r : Registry) (space : Option String) (b : Enumeration) : Registry :=
  let symbolic := b.symbolicName
  let raw := rawName space b
  { r with
    bitfieldNames := (namesWithin space b.item.name ++ [symbolic, raw]).foldl insertMember r.bitfieldNames
    conversions := addConversions r.conversions raw symbolic }

/-- What a declaration brings beside itself. -/
def addDerived (r : Registry) (space : Option String) : Declaration → Registry
  | .enumeration e => r.addEnumeration space e
  | .bitfield b => r.addBitfield space b
  | .record record => r.addRecord space record
  | .typeAlias _ | .constant _ | .callback _ => r

def addEntity (r : Registry) (space : Option String) (d : Declaration) : Registry :=
  { r with
    qualified :=
      match space with
      | some space => r.qualified.insertNew (qualify space d.name) r.size
      | none => r.qualified
    index := r.index.insert d.name r.size
    entities := r.entities ++ [d] }

def warn (r : Registry) (w : Warning) : Registry := { r with warnings := r.warnings ++ [w] }

end Registry

/-- A registry under construction, with the namespace that new names are declared in. -/
structure Builder where
  registry : Registry := {}
  space : Option String := none
deriving Repr

namespace Builder

def enter (b : Builder) (space : String) : Builder := { b with space := some space }

def warn (b : Builder) (w : Warning) : Builder := { b with registry := b.registry.warn w }

def warnAll (b : Builder) (ws : List Warning) : Builder := ws.foldl warn b

def contains (b : Builder) (name : String) : Bool := b.registry.index.contains name

def register (b : Builder) (d : Declaration) : Builder × Option Nat :=
  if b.contains d.name then (b.warn (.duplicate d.kind d.name), none)
  else
    ({ b with registry := (b.registry.addDerived b.space d).addEntity b.space d }, some b.registry.size)

inductive Operation where
  | enter (space : String)
  | warn (w : Warning)
  | register (d : Declaration)

def apply (b : Builder) : Operation → Builder
  | .enter space => b.enter space
  | .warn w => b.warn w
  | .register d => (b.register d).1

def run (b : Builder) (ops : List Operation) : Builder := ops.foldl apply b

end Builder

/-- Registries that some sequence of operations builds from nothing. -/
def Registry.Reachable (r : Registry) : Prop := ∃ ops, (({} : Builder).run ops).registry = r

end Introspection
