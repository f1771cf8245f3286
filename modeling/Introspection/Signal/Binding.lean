import Introspection.Signal.Plan
import Introspection.Text.Printable

/-!
Bindings of signals as text. For every planned signal a function connects a handler: the handler goes into a
closure holder, a trampoline with the C signature calls it, and a second function releases it. The types and
expressions that have to agree with each other are laid out in `Binding` before any line is written.
-/

set_option autoImplicit false

namespace Introspection

open Text Holder

structure Paths where
  ffi : String
  support : String

structure Binding where
  signal : String
  doc : List String
  note : Option String
  function : String
  handle : String
  /-- What the handler takes after the instance. -/
  handlerTypes : List String
  handlerReturn : String
  /-- What the trampoline takes between the instance and the user data. -/
  abiTypes : List String
  abiReturn : Option String
  /-- What the holder is called with after the instance. -/
  received : List String
  returns : ReturnBridge
  sent : String

namespace Boundary

def argumentDoc (a : Argument) : String :=
  match Text.lines a.item.comment with
  | first :: _ => "- `" ++ a.name ++ "`: " ++ first
  | [] => "- `" ++ a.name ++ "`"

def docLines (record : Record) (signal : Callable) : List String :=
  (Text.lines signal.item.comment).map trimEnd
    ++ (if signal.item.comment = "" then [] else [""])
    ++ ["Connects `handler` to the `" ++ signal.name ++ "` signal."]
    ++ (if record.kind = .interface then
          ["", "`self` wraps the instance of an object implementing `" ++ record.name ++ "`."]
        else [])
    ++ (if signal.arguments.isEmpty then []
        else "" :: "The handler receives the emitting instance followed by:" :: signal.arguments.map argumentDoc)

def abiReturn (b : Boundary) : ReturnBridge → Option String
  | .void => none
  | .ownedString => some "*mut std::ffi::c_char"
  | .value bridge => some (b.abi bridge)

def sent (b : Boundary) : ReturnBridge → String
  | .value bridge => b.send bridge "output"
  | .void | .ownedString => "output"

def binding (b : Boundary) (record : Record) (signal : Callable) (plan : Plan) : Binding where
  signal := signal.name
  doc := docLines record signal
  note := signal.item.deprecated
  function := "connect_" ++ snakeCase signal.name
  handle := b.selfHandle record
  handlerTypes := plan.arguments.map idiomatic
  handlerReturn := idiomatic plan.returnType
  abiTypes := plan.arguments.map b.abi
  abiReturn := b.abiReturn plan.returns
  received := plan.arguments.mapIdx fun i bridge => b.receive bridge ("arg" ++ toString (i + 1))
  returns := plan.returns
  sent := b.sent plan.returns

end Boundary

namespace Binding

def arrow : Option String → String
  | some type => " -> " ++ type
  | none => ""

def commentLine (line : String) : String := if line = "" then "    ///" else "    /// " ++ line

def arity (b : Binding) : Nat := b.abiTypes.length

def handlerInputs (b : Binding) : List String := b.handle :: b.handlerTypes

def holderParameters (b : Binding) : List String := b.handlerInputs ++ [b.handlerReturn]

def handlerArrow (b : Binding) : String :=
  match b.returns with
  | .void => ""
  | _ => " -> " ++ b.handlerReturn

def trampolineParameters (b : Binding) (p : Paths) : List String :=
  ("unowned_self: " ++ p.ffi ++ "::gpointer")
    :: b.abiTypes.mapIdx (fun i type => "arg" ++ toString (i + 1) ++ ": " ++ type)
    ++ ["user_data: " ++ p.ffi ++ "::gpointer"]

def pointerTypes (b : Binding) (p : Paths) : List String :=
  (p.ffi ++ "::gpointer") :: b.abiTypes ++ [p.ffi ++ "::gpointer"]

def callbackType (b : Binding) (p : Paths) : String :=
  "unsafe extern \"C\" fn(" ++ commas (b.pointerTypes p) ++ ")" ++ arrow b.abiReturn

def callArguments (b : Binding) : List String :=
  (b.handle ++ "::from_raw(unowned_self.cast())") :: b.received

def call (b : Binding) : String := "holder.call(" ++ commas b.callArguments ++ ")"

def resultLines (b : Binding) (p : Paths) : List String :=
  match b.returns with
  | .void => ["            " ++ b.call ++ ";"]
  | .value _ => ["            let output = " ++ b.call ++ ";", "            " ++ b.sent]
  | .ownedString =>
    ["            let output: String = " ++ b.call ++ ";",
     "            let bytes = output.as_bytes();",
     "            unsafe \x7b",
     "                let buffer = " ++ p.ffi ++ "::g_malloc0(bytes.len() + 1).cast::<u8>();",
     "                std::ptr::copy_nonoverlapping(bytes.as_ptr(), buffer, bytes.len());",
     "                buffer.cast::<std::ffi::c_char>()",
     "            \x7d"]

def noteLines (b : Binding) : List String :=
  match b.note with
  | some note => ["    #[deprecated(note = " ++ quoted note ++ ")]"]
  | none => []

def signatureLines (b : Binding) (p : Paths) : List String :=
  ["    pub fn " ++ b.function ++ "<F>(&self, flags: " ++ p.support ++ "::ConnectFlags, handler: F) -> u64",
   "    where",
   "        F: Fn(" ++ commas b.handlerInputs ++ ")" ++ b.handlerArrow ++ " + 'static,",
   "    \x7b",
   "        type SignalHandler = " ++ p.support ++ "::" ++ holderName b.arity ++ "<"
     ++ commas b.holderParameters ++ ">;",
   ""]

def trampolineLines (b : Binding) (p : Paths) : List String :=
  "        unsafe extern \"C\" fn trampoline("
    :: (b.trampolineParameters p).map (fun parameter => "            " ++ parameter ++ ",")
    ++ ["        )" ++ arrow b.abiReturn ++ " \x7b",
        "            let holder = unsafe \x7b &*(user_data as *const SignalHandler) \x7d;"]
    ++ b.resultLines p
    ++ ["        \x7d", ""]

def releaseLines (p : Paths) : List String :=
  ["        unsafe extern \"C\" fn destroy(user_data: " ++ p.ffi ++ "::gpointer, _closure: *mut " ++ p.ffi
     ++ "::GClosure) \x7b",
   "            drop(unsafe \x7b Box::from_raw(user_data as *mut SignalHandler) \x7d);",
   "        \x7d",
   ""]

def connectLines (b : Binding) (p : Paths) : List String :=
  ["        let callback: " ++ b.callbackType p ++ " = trampoline;",
   "        let data = Box::into_raw(Box::new(SignalHandler::new(handler))) as " ++ p.ffi ++ "::gpointer;",
   "        u64::from(unsafe \x7b",
   "            " ++ p.ffi ++ "::g_signal_connect_data(",
   "                self.ptr.cast(),",
   "                c\"" ++ b.signal ++ "\".as_ptr(),",
   "                Some(std::mem::transmute::<" ++ b.callbackType p
     ++ ", unsafe extern \"C\" fn()>(callback)),",
   "                data,",
   "                Some(destroy),",
   "                flags.bits(),",
   "            )",
   "        \x7d)",
   "    \x7d"]

def lines (b : Binding) (p : Paths) : List String :=
  b.doc.map commentLine ++ b.noteLines ++ b.signatureLines p ++ b.trampolineLines p ++ releaseLines p
    ++ b.connectLines p

def render (b : Binding) (p : Paths) : String := unlines (b.lines p)

end Binding

/-- A signal with what became of it. -/
structure Judged where
  signal : Callable
  outcome : Except Rejection Plan

namespace Boundary

def judge (b : Boundary) (record : Record) (signal : Callable) : Except ArityFault Judged :=
  (b.prepare record signal).map fun outcome => ⟨signal, outcome⟩

def rejectionComment? (j : Judged) : Option String :=
  match j.outcome with
  | .error reason => some (reason.comment j.signal.name)
  | .ok _ => none

def bindingText? (b : Boundary) (p : Paths) (record : Record) (j : Judged) : Option String :=
  match j.outcome with
  | .ok plan => some ((b.binding record j.signal plan).render p)
  | .error _ => none

/-- One block on the record's reference view, if there is anything to put into it. -/
def blockText (b : Boundary) (record : Record) (bindings : List String) : String :=
  if bindings.isEmpty then ""
  else "impl " ++ b.selfHandle record ++ " \x7b\n" ++ String.intercalate "\n" bindings ++ "\x7d\n"

/-- Comments for the rejected signals and a block with the bindings of the others. -/
def renderRecord (b : Boundary) (p : Paths) (record : Record) : Except ArityFault String :=
  if record.signals.isEmpty then .ok ("// no " ++ record.name ++ " signals\n\n")
  else do
    let judged ← record.signals.mapM (b.judge record)
    return "// Signals of " ++ record.kind.title ++ " named " ++ record.name ++ "\n"
      ++ String.join (judged.filterMap rejectionComment?)
      ++ b.blockText record (judged.filterMap (b.bindingText? p record))
      ++ "\n"

end Boundary

end Introspection
