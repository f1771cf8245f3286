import Introspection.Registry.Builder
import Introspection.Repository.Description

set_option autoImplicit false

namespace Introspection

open Markup

structure Loader where
  builder : Builder := {}
  namespaces : List Namespace := []

def Builder.declare (b : Builder) (d : Declared) : Builder × Option Nat :=
  let declaration := d.read
  (b.warnAll declaration.warnings).register declaration.value

def Builder.declareAll (b : Builder) : List Declared → Builder × List Nat
  | [] => (b, [])
  | d :: rest =>
    let (b, id) := b.declare d
    let (b, ids) := b.declareAll rest
    (b, id.toList ++ ids)

namespace Loader

/-- A namespace without a name is named for its position, with a warning. -/
def nameOf (l : Loader) (space : Element) : Warned String :=
  match space.attribute? "name" with
  | some name => pure name
  | none =>
    let name := unnamed l.namespaces.length
    ⟨name, [.missing "namespace" "name" name]⟩

def functionsOf (space : Element) : Warned (List Callable) :=
  Warned.collect ((space.childrenNamed "function").mapIdx fun i f => Callable.ofElement .function f i)

def loadNamespace (l : Loader) (d : Description) (space : Element) : Loader :=
  let name := l.nameOf space
  let (builder, entities) :=
    ((l.builder.warnAll name.warnings).enter name.value).declareAll (Declared.all space)
  let functions := functionsOf space
  { builder := builder.warnAll functions.warnings
    namespaces := l.namespaces ++ [{
      name := name.value
      version := space.attribute? "version"
      identifierStems := stems ((space.attribute? "identifier-prefixes").getD "")
      symbolStems := stems ((space.attribute? "symbol-prefixes").getD "")
      headers := d.headers
      includes := d.includes
      functions := functions.value
      entities }] }

def loadDescription (l : Loader) (d : Description) : Loader :=
  d.namespaces.foldl (fun l space => l.loadNamespace d space) l

def load (l : Loader) (text : String) : Except DocumentFault Loader :=
  (Description.read text).map l.loadDescription

/-- Loads a text, or says why not and stays as it was. -/
def attempt (l : Loader) (text : String) : Loader × Option DocumentFault :=
  match l.load text with
  | .ok l => (l, none)
  | .error fault => (l, some fault)

def attemptAll (l : Loader) : List String → Loader × List (Option DocumentFault)
  | [] => (l, [])
  | text :: rest =>
    let (l, outcome) := l.attempt text
    let (l, outcomes) := l.attemptAll rest
    (l, outcome :: outcomes)

/-- Loads all texts, up to the first that is refused. -/
def loadAll (l : Loader) (texts : List String) : Except DocumentFault Loader := texts.foldlM load l

def finish (l : Loader) : Repository := ⟨l.builder.registry, l.namespaces⟩

end Loader

/-- All texts that are descriptions, loaded in turn. -/
def Repository.ofTexts (texts : List String) : Repository := (({} : Loader).attemptAll texts).1.finish

end Introspection
