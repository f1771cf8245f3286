import Introspection.Bridge
import Introspection.Signal.Holder
import Introspection.Signal.Rejection

set_option autoImplicit false

namespace Introspection

inductive ReturnBridge where
  | void
  | value (bridge : Bridge)
  /-- Copied into memory that the caller comes to own. -/
  | ownedString
deriving DecidableEq, Repr

structure Plan where
  arguments : List Bridge
  returns : ReturnBridge
  returnType : Bridge
deriving DecidableEq, Repr

structure ArityFault where
  record : String
  signal : String
  count : Nat
deriving DecidableEq, Repr

def ArityFault.message (f : ArityFault) : String :=
  "signal '" ++ f.signal ++ "' of '" ++ f.record ++ "' has " ++ toString f.count ++ " arguments, at most "
    ++ toString maxArity ++ " are supported"

namespace Boundary

def planReturn (b : Boundary) (returns : Argument) : Except Rejection ReturnBridge :=
  match b.bridge returns.type with
  | .void => .ok .void
  | .typeAlias _ => .error .aliasReturn
  | .record _ => .error .recordReturn
  | bridge =>
    match bridge with
    | .fundamental f =>
      if f.isString then
        if returns.transfer = .full then .ok .ownedString else .error .borrowedStringReturn
      else if b.registry.isCallback returns.type then .error .callbackReturn
      else .ok (.value bridge)
    | _ => if b.registry.isCallback returns.type then .error .callbackReturn else .ok (.value bridge)

def planArgument (b : Boundary) (a : Argument) : Except Rejection Bridge :=
  match b.bridge a.type with
  | .typeAlias _ => .error (.typeAlias a.name)
  | bridge => .ok bridge

def plan (b : Boundary) (signal : Callable) : Except Rejection Plan := do
  let returns ← b.planReturn signal.returns
  let arguments ← signal.arguments.mapM b.planArgument
  return { arguments, returns, returnType := b.bridge signal.returns.type }

/-- The plan of a signal or what speaks against it. -/
def prepare (b : Boundary) (record : Record) (signal : Callable) :
    Except ArityFault (Except Rejection Plan) :=
  match b.registry.rejection? signal with
  | some reason => .ok (.error reason)
  | none =>
    if signal.arguments.length ≤ maxArity then .ok (b.plan signal)
    else .error ⟨record.name, signal.name, signal.arguments.length⟩

end Boundary

end Introspection
