import Introspection.Registry.Basic

set_option autoImplicit false

namespace Introspection

inductive Rejection where
  | ownership (argument : String)
  | direction (argument : String)
  | void (argument : String)
  | typeAlias (position : String)
  | nullable (position : String)
  | array (position : String)
  | recordReturn
  | aliasReturn
  | borrowedStringReturn
  | callbackReturn
deriving DecidableEq, Repr

namespace Rejection

def rule : Rejection → String
  | ownership _ => "ownership"
  | direction _ => "direction"
  | void _ => "void"
  | typeAlias _ => "alias"
  | nullable _ => "nullable"
  | array _ => "array"
  | recordReturn => "record-return"
  | aliasReturn => "alias-return"
  | borrowedStringReturn => "borrowed-string-return"
  | callbackReturn => "callback-return"

def message : Rejection → String
  | ownership argument => "argument " ++ argument ++ " transfers ownership, which is not allowed"
  | direction argument => "argument " ++ argument ++ " has out or inout direction, which is not allowed"
  | void argument => "argument " ++ argument ++ " is of type Void, which is not yet supported"
  | typeAlias position => position ++ " is an Alias, which is not yet supported"
  | nullable position => position ++ " is optional or nullable, which is not allowed"
  | array position => position ++ " is an array, which is not allowed"
  | recordReturn => "a Record return is not yet supported"
  | aliasReturn => "an Alias return cannot be bridged"
  | borrowedStringReturn => "a string return without ownership transfer cannot be bridged"
  | callbackReturn => "a callback return cannot be bridged"

/-- What stands in place of the binding. -/
def comment (r : Rejection) (signal : String) : String :=
  "// Warning: signal " ++ signal ++ " is ignored because " ++ r.message ++ "\n"

end Rejection

def returnPosition : String := "return"

def Callable.argumentWith? (c : Callable) (p : Argument → Bool) : Option String :=
  (c.arguments.find? p).map Argument.name

def Callable.positionWith? (c : Callable) (p : Argument → Bool) : Option String :=
  (c.argumentWith? p).or (if p c.returns then some returnPosition else none)

/-- The first rule that the signal breaks. -/
def Registry.rejection? (r : Registry) (signal : Callable) : Option Rejection :=
  ((signal.argumentWith? fun a => a.transfer != .none).map .ownership).or <|
  ((signal.argumentWith? fun a => a.direction != .input).map .direction).or <|
  ((signal.argumentWith? fun a => a.type.name == "Void").map .void).or <|
  ((signal.positionWith? fun a => r.classify a.type == .typeAlias).map .typeAlias).or <|
  ((signal.positionWith? fun a => a.isNullable || a.isOptional).map .nullable).or <|
  ((signal.positionWith? fun a => a.isArray).map .array).or <|
  if r.classify signal.returns.type = .record then some .recordReturn else none

end Introspection
