set_option autoImplicit false

namespace Introspection.Text

inductive NumeralFault where
  | empty
  | notDigit
  | tooLarge
deriving DecidableEq, Repr

def NumeralFault.message : NumeralFault → String
  | .empty => "cannot parse integer from empty string"
  | .notDigit => "invalid digit found in string"
  | .tooLarge => "number too large to fit in target type"

def decimalDigit? (c : Char) : Option Nat :=
  if '0' ≤ c ∧ c ≤ '9' then some (c.toNat - '0'.toNat) else none

def hexDigit? (c : Char) : Option Nat :=
  if 'a' ≤ c ∧ c ≤ 'f' then some (c.toNat - 'a'.toNat + 10)
  else if 'A' ≤ c ∧ c ≤ 'F' then some (c.toNat - 'A'.toNat + 10)
  else decimalDigit? c

inductive Radix where
  | decimal
  | hexadecimal

def Radix.base : Radix → Nat
  | .decimal => 10
  | .hexadecimal => 16

def Radix.digit? : Radix → Char → Option Nat
  | .decimal => decimalDigit?
  | .hexadecimal => hexDigit?

def digitsFrom (radix : Radix) (bound : Nat) : Nat → List Char → Except NumeralFault Nat
  | value, [] => .ok value
  | value, c :: cs =>
    match radix.digit? c with
    | none => .error .notDigit
    | some digit =>
      let next := value * radix.base + digit
      if next < bound then digitsFrom radix bound next cs else .error .tooLarge

def numeral (radix : Radix) (bound : Nat) : List Char → Except NumeralFault Nat
  | [] => .error .empty
  | cs => digitsFrom radix bound 0 cs

/-- Reads a numeral that may carry a plus sign. -/
def signlessNumeral? (radix : Radix) (bound : Nat) : List Char → Option Nat
  | '+' :: cs => (numeral radix bound cs).toOption
  | cs => (numeral radix bound cs).toOption

/-- A decimal integer of 64 bits, signed or not. -/
def int64? (s : String) : Option Int :=
  match s.toList with
  | '-' :: cs => (numeral .decimal (Nat.pow 2 63 + 1) cs).toOption.map fun n => -(n : Int)
  | cs => (signlessNumeral? .decimal (Nat.pow 2 63) cs).map fun n => (n : Int)

def size64? (s : String) : Option Nat := signlessNumeral? .decimal (Nat.pow 2 64) s.toList

end Introspection.Text
