import Introspection.Table
import Introspection.Text.Split

/-!
Conversions between two spellings of a type, as templates with one hole, and the table that holds them by
their ends. Converting an expression that is itself the result of the opposite conversion takes that one off
instead of stacking a second one on top.
-/

set_option autoImplicit false

namespace Introspection

open Text

def hole : String := "\x7b\x7d"

/-- Writes `lead`, the expression and `tail` in a row. -/
structure Conversion where
  source : String
  target : String
  lead : String
  tail : String
deriving DecidableEq, Repr

inductive TemplateFault where
  | noHole (source target template : String)
deriving DecidableEq, Repr

def TemplateFault.message : TemplateFault → String
  | .noHole source target template =>
    "conversion template '" ++ template ++ "' from '" ++ source ++ "' to '" ++ target ++ "' has no '" ++ hole
      ++ "' placeholder"

namespace Conversion

def ofTemplate (source target template : String) : Except TemplateFault Conversion :=
  match splitFirst hole.toList template.toList with
  | some (lead, tail) => .ok ⟨source, target, String.ofList lead, String.ofList tail⟩
  | none => .error (.noHole source target template)

def template (c : Conversion) : String := c.lead ++ hole ++ c.tail

def apply (c : Conversion) (expression : String) : String := c.lead ++ expression ++ c.tail

/-- The expression inside, if the whole is an application of this conversion. -/
def unapply? (c : Conversion) (expression : String) : Option String :=
  (withoutBeginning? c.lead expression).bind (withoutEnding? c.tail)

end Conversion

structure ConversionTable where
  byEnds : Table (String × String) Conversion := {}
deriving Repr

namespace ConversionTable

def get? (t : ConversionTable) (source target : String) : Option Conversion :=
  t.byEnds.get? (source, target)

def hasPair (t : ConversionTable) (a b : String) : Bool := (t.get? a b).isSome && (t.get? b a).isSome

def insertNew (t : ConversionTable) (c : Conversion) : ConversionTable :=
  ⟨t.byEnds.insertNew (c.source, c.target) c⟩

/-- Adds each direction that is not there yet. -/
def insertPair (t : ConversionTable) (forward backward : Conversion) : ConversionTable :=
  (t.insertNew forward).insertNew backward

def size (t : ConversionTable) : Nat := t.byEnds.size

def isExtendedBy (t : ConversionTable) (forward backward : Conversion) : Bool :=
  t.size < (t.insertPair forward backward).size

/-- Conversions that leave `source`, in order of insertion. -/
def leaving (t : ConversionTable) (source : String) : List Conversion :=
  t.byEnds.values.filter fun c => c.source == source

def convert? (t : ConversionTable) (expression source target : String) : Option String :=
  (t.get? source target).map fun c =>
    ((t.get? target source).bind fun inverse => inverse.unapply? expression).getD (c.apply expression)

end ConversionTable

end Introspection
