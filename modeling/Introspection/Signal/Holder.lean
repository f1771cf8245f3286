import Introspection.Text.Split

set_option autoImplicit false

namespace Introspection

open Text

/-- The largest number of signal arguments there is a holder for. -/
def maxArity : Nat := 6

def holderName (arity : Nat) : String := "ClosureHolder" ++ toString arity

namespace Holder

def commas (parts : List String) : String := String.intercalate ", " parts

def places (arity : Nat) : List Nat := (List.range arity).map (· + 1)

def argumentTypes (arity : Nat) : List String := (places arity).map fun i => "A" ++ toString i

def argumentNames (arity : Nat) : List String := (places arity).map fun i => "arg" ++ toString i

/-- The instance, the arguments and the result. -/
def generics (arity : Nat) : List String := "S" :: argumentTypes arity ++ ["R"]

def inputs (arity : Nat) : List String := "S" :: argumentTypes arity

def parameters (arity : Nat) : List String :=
  "this: S" :: (List.zip (argumentNames arity) (argumentTypes arity)).map fun (name, type) => name ++ ": " ++ type

def forwarded (arity : Nat) : List String := "this" :: argumentNames arity

def summary : Nat → String
  | 0 => "/// Owns a handler taking only the emitting instance."
  | 1 => "/// Owns a handler taking the emitting instance and 1 argument."
  | n => "/// Owns a handler taking the emitting instance and " ++ toString n ++ " arguments."

def lines (arity : Nat) : List String :=
  let name := holderName arity
  let generics := commas (generics arity)
  let inputs := commas (inputs arity)
  [summary arity,
   "pub struct " ++ name ++ "<" ++ generics ++ "> \x7b",
   "    callback: Box<dyn Fn(" ++ inputs ++ ") -> R>,",
   "\x7d",
   "",
   "impl<" ++ generics ++ "> " ++ name ++ "<" ++ generics ++ "> \x7b",
   "    /// Boxes the handler.",
   "    pub fn new<F>(callback: F) -> Self",
   "    where",
   "        F: Fn(" ++ inputs ++ ") -> R + 'static,",
   "    \x7b",
   "        Self \x7b",
   "            callback: Box::new(callback),",
   "        \x7d",
   "    \x7d",
   "",
   "    /// Invokes the handler.",
   "    pub fn call(&self, " ++ commas (parameters arity) ++ ") -> R \x7b",
   "        (self.callback)(" ++ commas (forwarded arity) ++ ")",
   "    \x7d",
   "\x7d"]

def flagLines : List String :=
  ["/// Flags passed along with a signal connection.",
   "#[derive(Debug, Clone, Copy, PartialEq, Eq, Hash, Default)]",
   "pub struct ConnectFlags(u32);",
   "",
   "impl ConnectFlags \x7b",
   "    /// Invoke the handler after the default handler.",
   "    pub const AFTER: Self = Self(1);",
   "    /// Swap the instance and user data arguments.",
   "    pub const SWAPPED: Self = Self(2);",
   "",
   "    /// Creates flags from raw bits.",
   "    pub const fn from_bits_retain(bits: u32) -> Self \x7b",
   "        Self(bits)",
   "    \x7d",
   "",
   "    /// Returns the raw bits.",
   "    pub const fn bits(self) -> u32 \x7b",
   "        self.0",
   "    \x7d",
   "\x7d"]

def indented (lines : List String) : List String :=
  lines.map fun line => if line = "" then "" else "    " ++ line

/-- ASCII letters, digits and underscores, not beginning with a digit. -/
def isIdentifier (s : String) : Bool :=
  match s.toList with
  | [] => false
  | c :: cs => (c == '_' || c.isAlpha) && cs.all fun c => c == '_' || c.isAlphanum

def moduleLines (name : String) : List String :=
  ["/// Signal handler storage shared by the generated bindings.", "pub mod " ++ name ++ " \x7b"]
    ++ indented flagLines
    ++ (List.range (maxArity + 1)).flatMap (fun arity => "" :: indented (lines arity))
    ++ ["\x7d"]

end Holder

inductive HolderFault where
  | noHolder (arity : Nat)
  | badModule (name : String)
deriving DecidableEq, Repr

def HolderFault.message : HolderFault → String
  | .noHolder arity => "no closure holder for " ++ toString arity ++ " arguments"
  | .badModule name => "'" ++ name ++ "' is not a valid support module name"

def renderHolder (arity : Nat) : Except HolderFault String :=
  if arity ≤ maxArity then .ok (unlines (Holder.lines arity)) else .error (.noHolder arity)

def renderSupport (name : String) : Except HolderFault String :=
  if Holder.isIdentifier name then .ok (unlines (Holder.moduleLines name)) else .error (.badModule name)

end Introspection
