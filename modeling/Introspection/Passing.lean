set_option autoImplicit false

namespace Introspection

inductive Transfer where
  | none
  | container
  | full
deriving DecidableEq, Repr, Inhabited

inductive Direction where
  | input
  | output
  | both
deriving DecidableEq, Repr, Inhabited

inductive PassingFault where
  | transfer (value : String)
  | direction (value : String)
deriving DecidableEq, Repr

def PassingFault.message : PassingFault → String
  | .transfer value => "invalid ownership transfer '" ++ value ++ "'"
  | .direction value => "invalid parameter direction '" ++ value ++ "'"

namespace Transfer

def spelling : Transfer → String
  | none => "none"
  | container => "container"
  | full => "full"

/-- A floating reference is not transferred. -/
def ofSpelling? (s : String) : Option Transfer :=
  if s = "none" ∨ s = "floating" then some none
  else if s = "container" then some container
  else if s = "full" then some full
  else Option.none

def parse (s : String) : Except PassingFault Transfer :=
  match ofSpelling? s with
  | some t => .ok t
  | Option.none => .error (.transfer s)

end Transfer

namespace Direction

def spelling : Direction → String
  | input => "in"
  | output => "out"
  | both => "inout"

def ofSpelling? (s : String) : Option Direction :=
  if s = "in" then some input
  else if s = "out" then some output
  else if s = "inout" then some both
  else none

def parse (s : String) : Except PassingFault Direction :=
  match ofSpelling? s with
  | some d => .ok d
  | none => .error (.direction s)

end Direction

end Introspection
