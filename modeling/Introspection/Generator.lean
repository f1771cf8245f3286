import Introspection.Repository.Loader
import Introspection.Signal.Binding
import Introspection.Validation

set_option autoImplicit false

namespace Introspection

open Markup Text

structure Config where
  ffi : String := "ffi"
  support : String := "crate::signal"
  emitsSupport : Bool := true
  /-- Whether a fault of the hierarchy is fatal. -/
  isStrict : Bool := false
  banner : Option String := none
deriving DecidableEq, Repr

namespace Config

/-- The support module goes by the last part of its path. -/
def supportModule (c : Config) : String := afterLast "::" c.support

def paths (c : Config) : Paths := ⟨c.ffi, c.support⟩

end Config

inductive GenerationFault where
  | document (fault : DocumentFault)
  | hierarchy (fault : HierarchyFault)
  | file (fault : FileFault)
  | arity (fault : ArityFault)
  | holder (fault : HolderFault)
  | noNamespace
deriving DecidableEq, Repr

def GenerationFault.message : GenerationFault → String
  | .document fault => "parse error: " ++ fault.message
  | .hierarchy fault => "validation error: " ++ fault.message
  | .file fault => "IO error: " ++ fault.message
  | .arity fault => fault.message
  | .holder fault => "generation error: " ++ fault.message
  | .noNamespace => "generation error: repository has no namespace"

def bannerLine (line : String) : String := if line = "" then "//" else "// " ++ line

def bannerLines (banner : Option String) : List String :=
  match banner with
  | some banner => (Text.lines banner).map fun line => bannerLine (trimEnd line)
  | none => []

def headerLines (c : Config) (space : String) : List String :=
  bannerLines c.banner
    ++ ["// Signal bindings for the " ++ space ++ " namespace.", "// Generated by girbind. Do not edit.", ""]

namespace Repository

def checkHierarchy (r : Repository) (c : Config) : Except GenerationFault Unit :=
  if c.isStrict then
    match r.registry.hierarchyFaults with
    | fault :: _ => .error (.hierarchy fault)
    | [] => .ok ()
  else .ok ()

def supportText (c : Config) : Except GenerationFault String :=
  if c.emitsSupport then
    match renderSupport c.supportModule with
    | .ok text => .ok (text ++ "\n")
    | .error fault => .error (.holder fault)
  else .ok ""

def boundary (r : Repository) (c : Config) : Boundary := ⟨r.registry, c.ffi⟩

def recordText (r : Repository) (c : Config) (record : Record) : Except GenerationFault String :=
  ((r.boundary c).renderRecord c.paths record).mapError .arity

def generate (r : Repository) (c : Config) : Except GenerationFault String := do
  r.checkHierarchy c
  match r.primary? with
  | none => throw .noNamespace
  | some space =>
    let support ← supportText c
    let records ← (r.records space).mapM (r.recordText c)
    return unlines (headerLines c space.name) ++ support ++ String.join records

end Repository

inductive Source where
  | text (content : String)
  | bytes (content : ByteArray)
  | missing

def Source.content : Source → Except FileFault String
  | .text content => .ok content
  | .bytes content =>
    match String.fromUTF8? content with
    | some decoded => .ok decoded
    | none => .error .notText
  | .missing => .error .missing

/-- Generates from texts, the last of which counts. -/
def generateFromTexts (texts : List String) (c : Config) : Except GenerationFault String := do
  let loader ← (({} : Loader).loadAll texts).mapError .document
  loader.finish.generate c

def generateFromText (text : String) : Except GenerationFault String := generateFromTexts [text] {}

def generateFromFile (file : Source) : Except GenerationFault String := do
  let text ← file.content.mapError .file
  generateFromText text

def Loader.loadFile (l : Loader) (file : Source) : Except DocumentFault Loader := do
  let text ← file.content.mapError .file
  l.load text

def generateFromFiles (files : List Source) (c : Config) : Except GenerationFault String := do
  let loader ← (files.foldlM Loader.loadFile ({} : Loader)).mapError .document
  loader.finish.generate c

end Introspection
