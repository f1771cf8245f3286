import Introspection.Text.Number

/-!
References such as `&amp;` and `&#38;`. In running text a reference that means nothing stands for itself. In
the value of an attribute it is a fault, and character references are held to a stricter form there: no
sign, a small `x` only, and no U+0000.
-/

set_option autoImplicit false

namespace Introspection.Markup

open Text

/-- Numbers of character references are read as 32-bit words. -/
def codeBound : Nat := Nat.pow 2 32

def charOfCode? (n : Nat) : Option Char := if n.isValidChar then some (Char.ofNat n) else none

def predefined? (body : List Char) : Option Char :=
  if body = "lt".toList then some '<'
  else if body = "gt".toList then some '>'
  else if body = "amp".toList then some '&'
  else if body = "quot".toList then some '"'
  else if body = "apos".toList then some '\''
  else none

def characterInText? : List Char → Option Char
  | '#' :: 'x' :: digits => (signlessNumeral? .hexadecimal codeBound digits).bind charOfCode?
  | '#' :: 'X' :: digits => (signlessNumeral? .hexadecimal codeBound digits).bind charOfCode?
  | '#' :: digits => (signlessNumeral? .decimal codeBound digits).bind charOfCode?
  | body => predefined? body

def referenceInText (body : List Char) : List Char :=
  match characterInText? body with
  | some c => [c]
  | none => '&' :: body ++ [';']

inductive CharacterFault where
  | signed
  | numeral (fault : NumeralFault)
  | zero
  | noCharacter (code : Nat)
deriving DecidableEq, Repr

/-- Positions count the bytes of the raw value. -/
inductive EscapeFault where
  | unterminated (start stop : Nat)
  | unknown (start stop : Nat) (body : String)
  | character (fault : CharacterFault)
deriving DecidableEq, Repr

def CharacterFault.message : CharacterFault → String
  | .signed => "unexpected number sign"
  | .numeral fault => fault.message
  | .zero => "0x0 character is not permitted in XML"
  | .noCharacter code => "`" ++ toString code ++ "` is not a valid codepoint"

def EscapeFault.message : EscapeFault → String
  | .unterminated start stop =>
    "Error while escaping character at range " ++ toString start ++ ".." ++ toString stop
      ++ ": Cannot find ';' after '&'"
  | .unknown start stop body =>
    "at " ++ toString start ++ ".." ++ toString stop ++ ": unrecognized entity `" ++ body ++ "`"
  | .character fault => "invalid character reference: " ++ fault.message

def strictCode (radix : Radix) (digits : List Char) : Except CharacterFault Nat :=
  match digits with
  | '+' :: _ => .error .signed
  | '-' :: _ => .error .signed
  | _ => (numeral radix codeBound digits).mapError .numeral

def strictCharacter (digits : List Char) : Except CharacterFault Char := do
  let code ← match digits with
    | 'x' :: hex => strictCode .hexadecimal hex
    | _ => strictCode .decimal digits
  if code = 0 then throw .zero
  match charOfCode? code with
  | some c => return c
  | none => throw (.noCharacter code)

def characterInValue (start stop : Nat) (body : List Char) : Except EscapeFault Char :=
  match body with
  | '#' :: digits => (strictCharacter digits).mapError .character
  | _ =>
    match predefined? body with
    | some c => .ok c
    | none => .error (.unknown start stop (String.ofList body))

structure OpenReference where
  /-- Where its ampersand stands. -/
  start : Nat
  body : List Char

/-- Reads a raw value of `size` bytes from byte `here` on. -/
def decodeFrom (size : Nat) : (here : Nat) → Option OpenReference → List Char → Except EscapeFault (List Char)
  | _, none, [] => .ok []
  | _, some pending, [] => .error (.unterminated pending.start size)
  | here, none, c :: cs =>
    if c = '&' then decodeFrom size (here + 1) (some ⟨here, []⟩) cs
    else (decodeFrom size (here + c.utf8Size) none cs).map (c :: ·)
  | here, some pending, c :: cs =>
    if c = '&' then .error (.unterminated pending.start size)
    else if c = ';' then do
      let character ← characterInValue (pending.start + 1) here pending.body
      let rest ← decodeFrom size (here + 1) none cs
      return character :: rest
    else decodeFrom size (here + c.utf8Size) (some { pending with body := pending.body ++ [c] }) cs

def byteSize : List Char → Nat
  | [] => 0
  | c :: cs => c.utf8Size + byteSize cs

def decodeValue (raw : List Char) : Except EscapeFault (List Char) :=
  decodeFrom (byteSize raw) 0 none raw

end Introspection.Markup
