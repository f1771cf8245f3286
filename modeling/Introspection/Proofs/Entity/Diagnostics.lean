import Introspection.Proofs.Entity.Reading
import Introspection.Proofs.Registry.Step
import Mathlib.Data.List.Forall2

set_option autoImplicit false

namespace Introspection

open Markup

def callableNames : List String := ["method", "function", "constructor", "signal"]

namespace Markup.Element

/-- Where the arguments of a callable are declared: the first returned value, if there is one, and the parameters. -/
def callablePlaces (e : Element) : List (Option Element) := e.child? "return-value" :: e.parameters.map some

def memberPlaces (e : Element) : List (Option Element) :=
  callableNames.flatMap fun name => (e.childrenNamed name).flatMap callablePlaces

mutual

def places (e : Element) : List (Option Element) :=
  match e with
  | .mk name qualifiedName attributes children text =>
    memberPlaces ⟨name, qualifiedName, attributes, children, text⟩ ++ nestedPlaces children

def nestedPlaces (elements : List Element) : List (Option Element) :=
  match elements with
  | [] => []
  | e :: rest => (if e.name = "record" ∨ e.name = "union" then places e else []) ++ nestedPlaces rest

end

end Markup.Element

def Callable.passed (c : Callable) : List Argument := c.returns :: c.arguments

namespace Record

mutual

def passed (r : Record) : List Argument :=
  match r with
  | .mk _ _ _ _ _ _ _ methods functions constructors signals _ _ _ records =>
    (methods ++ functions ++ constructors ++ signals).flatMap Callable.passed ++ passedByAll records

def passedByAll (records : List Record) : List Argument :=
  match records with
  | [] => []
  | r :: rest => passed r ++ passedByAll rest

end

end Record

namespace Argument

/-- An attribute whose value is not allowed, reported with the value that is stored in its place. -/
def misspelled (e : Element) (key : String) (allowed : List String) (stored : String) : List Warning :=
  match e.attribute? key with
  | some value => if value ∈ allowed then [] else [.invalid e.name key value stored]
  | none => []

/-- What there is to report about a place and the argument that it gives. -/
def diagnostics (place : Option Element) (a : Argument) : List Warning :=
  match place with
  | some e =>
    misspelled e "transfer-ownership" ["none", "floating", "container", "full"] a.transfer.spelling
      ++ misspelled e "direction" ["in", "out", "inout"] a.direction.spelling
  | none => []

/-- The argument that a place gives; no place gives the argument of a callable that returns nothing. -/
def ReadFrom (place : Option Element) (a : Argument) : Prop :=
  match place with
  | some e => ∃ index, a = (ofElement e index).value
  | none => a = void

theorem reading_warnings {α : Type} {parse? : String → Option α} {allowed : List String}
    (hparse : ∀ value, parse? value = none ↔ value ∉ allowed) (e : Element) (key : String) (default : α)
    (spelling : α → String) :
    (reading e key parse? default (spelling default)).warnings =
      misspelled e key allowed (spelling (reading e key parse? default (spelling default)).value) := by
  unfold reading misspelled
  cases e.attribute? key with
  | none => rfl
  | some value =>
    cases hvalue : parse? value with
    | none => simp [hvalue, (hparse value).mp hvalue]
    | some a =>
      have hallowed : value ∈ allowed := by
        by_contra hother
        exact absurd ((hparse value).mpr hother) (by simp [hvalue])
      simp [hvalue, hallowed]

end Argument

theorem Transfer.ofSpelling?_eq_none_iff (value : String) :
    ofSpelling? value = Option.none ↔ value ∉ ["none", "floating", "container", "full"] := by
  unfold ofSpelling?
  split_ifs <;> grind

theorem Direction.ofSpelling?_eq_none_iff (value : String) :
    ofSpelling? value = none ↔ value ∉ ["in", "out", "inout"] := by
  unfold ofSpelling?
  split_ifs <;> grind

theorem Argument.ofElement_warnings (e : Element) (index : Nat) :
    (ofElement e index).warnings = diagnostics (some e) (ofElement e index).value := by
  have hwarnings : (ofElement e index).warnings = (transferOf e).warnings ++ (directionOf e).warnings := by
    simp [ofElement]
  rw [hwarnings, transferOf, directionOf, reading_warnings Transfer.ofSpelling?_eq_none_iff,
    reading_warnings Direction.ofSpelling?_eq_none_iff]
  rfl

/-- The arguments come from the places one by one, and the warnings are what there is to report about them, in the
    same order. -/
structure Reports (places : List (Option Element)) (arguments : List Argument) (warnings : List Warning) : Prop where
  read : List.Forall₂ Argument.ReadFrom places arguments
  reported : warnings = (List.zipWith Argument.diagnostics places arguments).flatten

namespace Reports

theorem nil : Reports [] [] [] := ⟨.nil, rfl⟩

theorem append {places more : List (Option Element)} {arguments further : List Argument}
    {warnings later : List Warning} (h : Reports places arguments warnings) (hmore : Reports more further later) :
    Reports (places ++ more) (arguments ++ further) (warnings ++ later) where
  read := List.rel_append h.read hmore.read
  reported := by
    rw [List.zipWith_append h.read.length_eq, List.flatten_append, ← h.reported, ← hmore.reported]

theorem void : Reports [none] [.void] [] := ⟨.cons rfl .nil, rfl⟩

theorem argument (e : Element) (index : Nat) :
    Reports [some e] [(Argument.ofElement e index).value] (Argument.ofElement e index).warnings where
  read := .cons ⟨index, rfl⟩ .nil
  reported := by simp [Argument.ofElement_warnings]

theorem collect {α : Type} {places : Element → List (Option Element)} {passed : α → List Argument}
    {read : Nat → Element → Warned α}
    (h : ∀ index e, Reports (places e) (passed (read index e).value) (read index e).warnings) (elements : List Element) :
    Reports (elements.flatMap places) ((Warned.collect (elements.mapIdx read)).value.flatMap passed)
      (Warned.collect (elements.mapIdx read)).warnings := by
  induction elements generalizing read with
  | nil => exact nil
  | cons e elements ih =>
    rw [List.mapIdx_cons, List.flatMap_cons]
    exact (h 0 e).append (ih fun index e => h (index + 1) e)

theorem returnOf (e : Element) :
    Reports [e.child? "return-value"] [(Callable.returnOf e).value] (Callable.returnOf e).warnings := by
  unfold Callable.returnOf
  cases e.child? "return-value" with
  | none => exact void
  | some value => exact argument value 0

theorem argumentsOf (e : Element) :
    Reports (e.parameters.map some) (Callable.argumentsOf e).value (Callable.argumentsOf e).warnings := by
  have h : Reports (e.parameters.flatMap fun p => [some p]) ((Callable.argumentsOf e).value.flatMap fun a => [a])
      (Callable.argumentsOf e).warnings := collect (fun index p => argument p index) e.parameters
  rwa [List.flatMap_singleton', ← List.map_eq_flatMap] at h

theorem callable (kind : CallableKind) (e : Element) (index : Nat) :
    Reports e.callablePlaces (Callable.ofElement kind e index).value.passed
      (Callable.ofElement kind e index).warnings := by
  have h := (returnOf e).append (argumentsOf e)
  rw [← List.append_nil (Callable.argumentsOf e).warnings] at h
  exact h

theorem callablesOf (e : Element) (name : String) (kind : CallableKind) :
    Reports ((e.childrenNamed name).flatMap Element.callablePlaces)
      ((Record.callablesOf e name kind).value.flatMap Callable.passed) (Record.callablesOf e name kind).warnings :=
  collect (fun index e => callable kind e index) (e.childrenNamed name)

theorem outline (kind : RecordKind) (e : Element) (index : Nat) :
    Reports e.memberPlaces
      (((Record.outline kind e index).value.methods ++ (Record.outline kind e index).value.functions
        ++ (Record.outline kind e index).value.constructors
        ++ (Record.outline kind e index).value.signals).flatMap Callable.passed)
      (Record.outline kind e index).warnings := by
  have h := (callablesOf e "method" .method).append ((callablesOf e "function" .function).append
    ((callablesOf e "constructor" .constructor).append ((callablesOf e "signal" .signal).append nil)))
  simp only [List.flatMap_append, List.append_assoc]
  rw [← List.append_nil ((Record.outline kind e index).value.signals.flatMap Callable.passed)]
  exact h

mutual

theorem record (kind : RecordKind) (e : Element) (index : Nat) :
    Reports e.places (Record.ofElement kind e index).value.passed (Record.ofElement kind e index).warnings := by
  cases e with
  | mk name qualifiedName attributes children text =>
    have h := (outline kind ⟨name, qualifiedName, attributes, children, text⟩ index).append (nested 0 children)
    rw [← List.append_nil (Record.nestedFrom 0 children).warnings] at h
    rw [Element.places, Record.ofElement]
    exact h

theorem nested (index : Nat) (elements : List Element) :
    Reports (Element.nestedPlaces elements) (Record.passedByAll (Record.nestedFrom index elements).value)
      (Record.nestedFrom index elements).warnings := by
  cases elements with
  | nil =>
    rw [Element.nestedPlaces, Record.nestedFrom]
    exact nil
  | cons e rest =>
    rw [Element.nestedPlaces, Record.nestedFrom]
    cases hkind : Record.nestedKind? e with
    | none =>
      rw [if_neg (by grind [Record.nestedKind?]), List.nil_append]
      exact nested index rest
    | some kind =>
      have h := (record kind e index).append (nested (index + 1) rest)
      rw [← List.append_nil (Record.nestedFrom (index + 1) rest).warnings] at h
      rw [if_pos (by grind [Record.nestedKind?])]
      exact h

end

end Reports

namespace Record

/-- Reading a record adds to the warnings of a registry and changes nothing else of it. What it adds follows the places
    of the record, whatever was there before: for each, the transfer of ownership and then the direction, if it is
    spelled as none is, together with the value that the argument of that place holds. -/
theorem ofElement_diagnoses (b : Builder) (kind : RecordKind) (e : Element) (index : Nat) :
    List.Forall₂ Argument.ReadFrom e.places (ofElement kind e index).value.passed ∧
    b.warnAll (ofElement kind e index).warnings =
      { b with registry := { b.registry with
        warnings := b.registry.warnings
          ++ (List.zipWith Argument.diagnostics e.places (ofElement kind e index).value.passed).flatten } } := by
  have h := Reports.record kind e index
  refine ⟨h.read, ?_⟩
  rw [Builder.warnAll_eq, h.reported]

example :
    let place (name key value : String) : Element := { Element.named name with attributes := [(key, value)] }
    let member (name : String) (children : List Element) : Element := { Element.named name with children }
    (ofElement .objectClass (member "class" [
        member "record" [member "method" [place "return-value" "transfer-ownership" "some"]],
        member "signal" [place "parameter" "direction" "up", place "return-value" "transfer-ownership" "half"],
        member "method" [place "parameter" "direction" "out", place "parameter" "direction" "down"]]) 0).warnings =
      [.invalid "parameter" "direction" "down" "in", .invalid "return-value" "transfer-ownership" "half" "none",
        .invalid "parameter" "direction" "up" "in", .invalid "return-value" "transfer-ownership" "some" "none"] := by
  decide

end Record

end Introspection
