import Introspection.Generator
import Introspection.Proofs.Signal.Account
import Introspection.Proofs.Signal.Valueless

/-!
What the parts of a connecting function have in common. A trampoline is handed over as a function without parameters
and user data without a type, so nothing checks its parameters against the handler and the holder that is called;
here they all come from the bridges of one list of arguments, and the support module has a holder of that arity.
-/

set_option autoImplicit false

namespace Introspection

open Markup Text Holder

namespace Holder

theorem generics_eq (arity : Nat) :
    generics arity = "S" :: (List.range arity).map (fun i => "A" ++ toString (i + 1)) ++ ["R"] := by
  simp [generics, argumentTypes, places, Function.comp_def]

theorem parameters_eq (arity : Nat) :
    parameters arity =
      "this: S" :: (List.range arity).map fun i => "arg" ++ toString (i + 1) ++ ": A" ++ toString (i + 1) := by
  have htype : ": A" = ": " ++ "A" := by decide
  simp only [parameters, argumentNames, argumentTypes, places, List.map_map, List.zip_map', htype, String.append_assoc,
    Function.comp_def]

end Holder

theorem mapIdx_numbered {α : Type} (f : String → α → String) (xs : List α) :
    xs.mapIdx (fun i x => f ("arg" ++ toString (i + 1)) x) =
      List.zipWith f ((List.range xs.length).map fun i => "arg" ++ toString (i + 1)) xs := by
  apply List.ext_getElem
  · simp
  · intro i _ _
    simp

namespace Binding

/-- What the lines of a connecting function say about types and arity. -/
structure Shape where
  holder : String
  holderTypes : List String
  names : List String
  types : List String
  arrow : String
  values : List String

def Shape.pointerType (s : Shape) : String :=
  "unsafe extern \"C\" fn(" ++ ", ".intercalate s.types ++ ")" ++ s.arrow

def Shape.declaration (s : Shape) (p : Paths) : List String :=
  ["        type SignalHandler = " ++ p.support ++ "::" ++ s.holder ++ "<" ++ ", ".intercalate s.holderTypes ++ ">;",
    "",
    "        unsafe extern \"C\" fn trampoline("]
  ++ List.zipWith (fun name type => "            " ++ (name ++ ": " ++ type) ++ ",") s.names s.types
  ++ ["        )" ++ s.arrow ++ " \x7b",
    "            let holder = unsafe \x7b &*(user_data as *const SignalHandler) \x7d;"]

def Shape.call (s : Shape) : String := "holder.call(" ++ ", ".intercalate s.values ++ ")"

/-- A function of this shape: its declarations, the call, and the two places where it writes down the type of the
    trampoline. -/
def Shape.Written (s : Shape) (p : Paths) (lines : List String) : Prop :=
  ∃ opening result connecting closing : List String,
    ∃ output ∈ ["", "let output = ", "let output: String = "],
      lines = opening ++ s.declaration p ++ ["            " ++ output ++ s.call ++ ";"] ++ result
        ++ ["        let callback: " ++ s.pointerType ++ " = trampoline;"] ++ connecting
        ++ ["                Some(std::mem::transmute::<" ++ s.pointerType ++ ", unsafe extern \"C\" fn()>(callback)),"]
        ++ closing

def shape (b : Binding) (p : Paths) : Shape where
  holder := holderName b.arity
  holderTypes := b.holderParameters
  names := "unowned_self" :: (List.range b.arity).map (fun i => "arg" ++ toString (i + 1)) ++ ["user_data"]
  types := b.pointerTypes p
  arrow := arrow b.abiReturn
  values := b.callArguments

theorem arrow_eq (type : Option String) : arrow type = (type.map (" -> " ++ ·)).getD "" := by
  cases type <;> rfl

theorem trampolineParameters_eq (b : Binding) (p : Paths) :
    b.trampolineParameters p =
      List.zipWith (fun name type => name ++ ": " ++ type) (b.shape p).names (b.shape p).types := by
  have hself : "unowned_self: " = "unowned_self" ++ ": " := by decide
  have hdata : "user_data: " = "user_data" ++ ": " := by decide
  have harguments := mapIdx_numbered (fun name type => name ++ ": " ++ type) b.abiTypes
  change _ = List.zipWith _
    ("unowned_self" :: (List.range b.abiTypes.length).map (fun i => "arg" ++ toString (i + 1)) ++ ["user_data"])
    ((p.ffi ++ "::gpointer") :: b.abiTypes ++ [p.ffi ++ "::gpointer"])
  rw [List.cons_append, List.cons_append, List.zipWith_cons_cons, List.zipWith_append (by simp), ← harguments]
  simp only [trampolineParameters, hself, hdata, String.append_assoc, List.cons_append, List.zipWith_cons_cons,
    List.zipWith_nil_left]

theorem resultLines_eq (b : Binding) (p : Paths) :
    ∃ output ∈ ["", "let output = ", "let output: String = "], ∃ rest,
      b.resultLines p = ("            " ++ output ++ b.call ++ ";") :: rest := by
  have hvalue : "            let output = " = "            " ++ "let output = " := by decide
  have hstring : "            let output: String = " = "            " ++ "let output: String = " := by decide
  unfold resultLines
  split
  · exact ⟨"", by simp, _, by rw [String.append_empty]⟩
  · exact ⟨"let output = ", by simp, _, by rw [← hvalue]⟩
  · exact ⟨"let output: String = ", by simp, _, by rw [← hstring]⟩

theorem shape_written (b : Binding) (p : Paths) : (b.shape p).Written p (b.lines p) := by
  obtain ⟨output, houtput, rest, hresult⟩ := b.resultLines_eq p
  refine ⟨b.doc.map commentLine ++ b.noteLines ++ (b.signatureLines p).take 4,
    rest ++ ["        \x7d", ""] ++ releaseLines p, ((b.connectLines p).take 6).drop 1, (b.connectLines p).drop 7,
    output, houtput, ?_⟩
  have hparameters : (b.trampolineParameters p).map (fun parameter => "            " ++ parameter ++ ",") =
      List.zipWith (fun name type => "            " ++ (name ++ ": " ++ type) ++ ",") (b.shape p).names
        (b.shape p).types := by
    rw [trampolineParameters_eq, List.map_zipWith]
  unfold lines trampolineLines
  rw [hresult, hparameters]
  simp only [signatureLines, connectLines, Shape.declaration, List.append_assoc, List.cons_append, List.nil_append,
    List.take, List.drop]
  rfl

/-- A shape for arguments with these bridges: every list goes through them in order, between the instance and the user
    data or the result. -/
structure Shape.Fits (s : Shape) (b : Boundary) (handle : String) (bridges : List Bridge) (returns : Bridge) :
    Prop where
  holder : s.holder = "ClosureHolder" ++ toString bridges.length
  holderTypes : s.holderTypes = handle :: bridges.map Boundary.idiomatic ++ [Boundary.idiomatic returns]
  names : s.names =
    "unowned_self" :: (List.range bridges.length).map (fun i => "arg" ++ toString (i + 1)) ++ ["user_data"]
  types : s.types = (b.ffi ++ "::gpointer") :: bridges.map b.abi ++ [b.ffi ++ "::gpointer"]
  values : s.values = b.receive (.record handle) "unowned_self"
    :: bridges.mapIdx fun i bridge => b.receive bridge ("arg" ++ toString (i + 1))

theorem Shape.Fits.lengths {s : Shape} {b : Boundary} {handle : String} {bridges : List Bridge} {returns : Bridge}
    (h : s.Fits b handle bridges returns) :
    s.holderTypes.length = bridges.length + 2 ∧ s.names.length = bridges.length + 2 ∧
      s.types.length = bridges.length + 2 ∧ s.values.length = bridges.length + 1 := by
  simp [h.holderTypes, h.names, h.types, h.values]

end Binding

namespace Boundary

theorem shape_binding_fits (b : Boundary) (p : Paths) (hffi : p.ffi = b.ffi) (record : Record) (signal : Callable)
    (plan : Plan) :
    ((b.binding record signal plan).shape p).Fits b (b.selfHandle record) plan.arguments plan.returnType := by
  have harity : (b.binding record signal plan).arity = plan.arguments.length := by simp [Binding.arity, binding]
  have hself : b.selfHandle record ++ "::from_raw(unowned_self.cast())" =
      b.receive (.record (b.selfHandle record)) "unowned_self" := by
    have htext : "::from_raw(unowned_self.cast())" = "::from_raw(" ++ "unowned_self" ++ ".cast())" := by decide
    rw [htext]
    simp only [receive, String.append_assoc]
  constructor
  · simp only [Binding.shape, harity, holderName]
  · rfl
  · simp only [Binding.shape, harity]
  · simp only [Binding.shape, Binding.pointerTypes, hffi]
    rfl
  · rw [← hself]
    rfl

theorem exists_intercalate_of_mem {α : Type} (separator : List α) {blocks : List (List α)} {block : List α}
    (h : block ∈ blocks) : ∃ before after, separator.intercalate blocks = before ++ block ++ after := by
  induction blocks with
  | nil => simp at h
  | cons first blocks ih =>
    by_cases hblocks : blocks = []
    · have hfirst : block = first := by simpa [hblocks] using h
      exact ⟨[], [], by simp [hblocks, hfirst]⟩
    · rw [List.intercalate_cons_of_ne_nil hblocks]
      obtain rfl | hrest := List.mem_cons.mp h
      · exact ⟨[], separator ++ separator.intercalate blocks, by simp⟩
      · obtain ⟨before, after, heq⟩ := ih hrest
        exact ⟨first ++ separator ++ before, after, by simp [heq]⟩

theorem exists_function_lines {b : Boundary} {p : Paths} {record : Record} {text : String} {signal : Callable}
    {plan : Plan} (hrender : b.renderRecord p record = .ok text) (hsignal : signal ∈ record.signals)
    (haccepts : b.Accepts signal plan) :
    ∃ before after, text = unlines (before ++ (b.binding record signal plan).lines p ++ after) := by
  obtain ⟨rejected, accepted, hsorts, htext⟩ := (renderRecord_eq_ok_iff (List.ne_nil_of_mem hsignal)).mp hrender
  have hmem : (signal, plan) ∈ accepted := by
    obtain ⟨⟨reason, hreason⟩, _⟩ | ⟨⟨other, hother⟩, _⟩ := hsorts.xor_of_mem hsignal
    · exact absurd (hsorts.rejects_of_mem hreason) (haccepts.not_rejects reason)
    · have hplans := haccepts.2.2.symm.trans (hsorts.accepts_of_mem hother).2.2
      rwa [Except.ok.inj hplans]
  have hlines : (b.binding record signal plan).lines p ∈ accepted.map fun a => (b.binding record a.1 a.2).lines p :=
    List.mem_map.mpr ⟨(signal, plan), hmem, rfl⟩
  obtain ⟨before, after, hblock⟩ := exists_intercalate_of_mem [""] hlines
  have hrecord : ∃ before after, b.recordLines p record rejected accepted =
      before ++ (b.binding record signal plan).lines p ++ after := by
    unfold recordLines blockLines
    rw [if_neg (List.ne_nil_of_mem hmem), hblock]
    generalize (b.binding record signal plan).lines p = function
    generalize "// Signals of " ++ record.kind.title ++ " named " ++ record.name = header
    generalize "impl " ++ b.selfHandle record ++ " \x7b" = opening
    refine ⟨header :: rejected.map warningLine ++ opening :: before, after ++ ["\x7d"] ++ [""], ?_⟩
    simp only [List.append_assoc, List.cons_append]
  obtain ⟨before, after, hrecord⟩ := hrecord
  exact ⟨before, after, htext.trans (congrArg unlines hrecord)⟩

end Boundary

theorem exists_holder_lines {name support : String} (hsupport : renderSupport name = .ok support) {arity : Nat}
    (harity : arity ≤ maxArity) :
    ∃ before after, support = unlines (before ++ indented (Holder.lines arity) ++ after) := by
  have hmem : arity ∈ List.range (maxArity + 1) := List.mem_range.mpr (Nat.lt_succ_of_le harity)
  obtain ⟨smaller, larger, hrange⟩ := List.append_of_mem hmem
  have hlines : ∃ before after, moduleLines name = before ++ indented (Holder.lines arity) ++ after := by
    unfold moduleLines
    rw [hrange, List.flatMap_append, List.flatMap_cons]
    generalize indented flagLines = flags
    generalize indented (Holder.lines arity) = holder
    generalize "pub mod " ++ name ++ " \x7b" = opening
    generalize "/// Signal handler storage shared by the generated bindings." = summary
    refine ⟨[summary, opening] ++ flags ++ smaller.flatMap (fun arity => "" :: indented (Holder.lines arity)) ++ [""],
      larger.flatMap (fun arity => "" :: indented (Holder.lines arity)) ++ ["\x7d"], ?_⟩
    simp only [List.append_assoc, List.cons_append, List.nil_append]
  obtain ⟨before, after, hlines⟩ := hlines
  unfold renderSupport at hsupport
  split at hsupport
  · exact ⟨before, after, (Except.ok.inj hsupport).symm.trans (congrArg unlines hlines)⟩
  · cases hsupport

namespace Holder

theorem indented_append (lines more : List String) : indented (lines ++ more) = indented lines ++ indented more :=
  List.map_append

theorem indented_cons {line : String} (h : line ≠ "") (lines : List String) :
    indented (line :: lines) = ("    " ++ line) :: indented lines := by
  rw [indented, List.map_cons, if_neg h]
  rfl

theorem mem_of_mem_indented {line : String} {lines : List String} (h : "    " ++ line ∈ indented lines) :
    line ∈ lines := by
  obtain ⟨other, hother, heq⟩ := List.mem_map.mp h
  split at heq
  · exact absurd heq.symm (by simp)
  · rwa [← (String.append_right_inj _).mp heq]

/-- The lines of a holder, with those in full that say what it is applied to and called with. The brace that ends the
    block comes after the call. -/
theorem lines_eq (arity : Nat) :
    ∃ fields methods closing : List String,
      Holder.lines arity =
        summary arity
          :: ("pub struct " ++ holderName arity ++ "<" ++ commas (generics arity) ++ "> \x7b")
          :: fields
          ++ ("impl<" ++ commas (generics arity) ++ "> " ++ holderName arity ++ "<" ++ commas (generics arity) ++ "> \x7b")
          :: methods
          ++ ("    pub fn call(&self, " ++ commas (parameters arity) ++ ") -> R \x7b")
          :: closing ∧
      "\x7d" ∉ methods := by
  have hbound : "        F: Fn(" ++ commas (inputs arity) ++ ") -> R + 'static," ≠ "\x7d" := by
    intro h
    have hhead := congrArg (fun s => s.toList.head?) h
    simp at hhead
  refine ⟨[_, _, _], [_, _, _, _, _, _, _, _, _, _, _], [_, _, _], rfl, ?_⟩
  simp [hbound.symm]

theorem indented_lines_eq (arity : Nat) :
    ∃ opening fields methods closing : List String,
      indented (Holder.lines arity) =
        opening
          ++ ("    pub struct ClosureHolder" ++ toString arity ++ "<" ++ ", ".intercalate (generics arity) ++ "> \x7b")
          :: fields
          ++ ("    impl<" ++ ", ".intercalate (generics arity) ++ "> ClosureHolder" ++ toString arity ++ "<"
            ++ ", ".intercalate (generics arity) ++ "> \x7b")
          :: methods
          ++ ("        pub fn call(&self, " ++ ", ".intercalate (parameters arity) ++ ") -> R \x7b")
          :: closing ∧
      "    \x7d" ∉ methods := by
  obtain ⟨fields, methods, closing, hlines, hbrace⟩ := lines_eq arity
  have hstruct : "    pub struct ClosureHolder" = "    " ++ ("pub struct " ++ "ClosureHolder") := by decide
  have himpl : "    impl<" = "    " ++ "impl<" := by decide
  have hname : "> ClosureHolder" = "> " ++ "ClosureHolder" := by decide
  have hcall : "        pub fn call(&self, " = "    " ++ "    pub fn call(&self, " := by decide
  refine ⟨indented [summary arity], indented fields, indented methods, indented closing, ?_, ?_⟩
  · rw [hlines, ← List.singleton_append, indented_append, indented_append, indented_append]
    generalize indented [summary arity] = opening
    rw [indented_cons (by simp), indented_cons (by simp), indented_cons (by simp), hstruct, himpl, hname, hcall]
    simp only [holderName, commas, String.append_assoc]
  · exact fun h => hbrace (mem_of_mem_indented h)

end Holder

namespace Boundary

/-- All that a connecting function says about its types agrees. Whatever is registered and configured, the function of
    an accepted signal stands in the text of its record, has a shape that fits the bridges of the signal's arguments
    in order, and names a holder that every support module defines for just as many arguments. -/
theorem renderRecord_parts_agree (registry : Registry) (c : Config) (record : Record) (text : String)
    (signal : Callable) (plan : Plan)
    (hrender : (Boundary.mk registry c.ffi).renderRecord c.paths record = .ok text)
    (hsignal : signal ∈ record.signals) (haccepts : (Boundary.mk registry c.ffi).Accepts signal plan) :
    let b : Boundary := ⟨registry, c.ffi⟩
    let n := signal.arguments.length
    let generics := "S" :: (List.range n).map (fun i => "A" ++ toString (i + 1)) ++ ["R"]
    let parameters :=
      "this: S" :: (List.range n).map (fun i => "arg" ++ toString (i + 1) ++ ": A" ++ toString (i + 1))
    n ≤ 6 ∧
    (∃ before function after, text = String.join ((before ++ function ++ after).map (· ++ "\n")) ∧
      function.filter opensFunction = [(b.binding record signal plan).signature c.paths] ∧
      ∃ shape : Binding.Shape, shape.Written c.paths function ∧
        shape.Fits b (b.selfHandle record) (signal.arguments.map fun a => b.bridge a.type)
          (b.bridge signal.returns.type) ∧
        shape.arrow = ((b.abiReturn plan.returns).map (" -> " ++ ·)).getD "" ∧
        shape.holderTypes.length = n + 2 ∧ shape.names.length = n + 2 ∧ shape.types.length = n + 2 ∧
        shape.values.length = n + 1) ∧
    ∀ name support, renderSupport name = .ok support →
      ∃ before fields methods after, support = String.join ((before
        ++ ("    pub struct ClosureHolder" ++ toString n ++ "<" ++ ", ".intercalate generics ++ "> \x7b")
        :: fields
        ++ ("    impl<" ++ ", ".intercalate generics ++ "> ClosureHolder" ++ toString n ++ "<"
          ++ ", ".intercalate generics ++ "> \x7b")
        :: methods
        ++ ("        pub fn call(&self, " ++ ", ".intercalate parameters ++ ") -> R \x7b")
        :: after).map (· ++ "\n")) ∧
      "    \x7d" ∉ methods ∧ generics.length = n + 2 ∧ parameters.length = n + 1 := by
  intro b n generics parameters
  have harity : n ≤ maxArity := haccepts.2.1
  refine ⟨harity, ?_, ?_⟩
  · obtain ⟨before, after, htext⟩ := exists_function_lines hrender hsignal haccepts
    refine ⟨before, _, after, htext, Binding.filter_lines _ c.paths, _, Binding.shape_written _ c.paths, ?_⟩
    have hfits := b.shape_binding_fits c.paths rfl record signal plan
    obtain ⟨_, _, _, _, hplan⟩ := plan_eq_ok haccepts.2.2
    have hreturn : plan.returnType = b.bridge signal.returns.type := by rw [hplan]
    rw [plan_arguments haccepts.2.2, hreturn] at hfits
    have hlengths := hfits.lengths
    rw [List.length_map] at hlengths
    exact ⟨hfits, Binding.arrow_eq _, hlengths⟩
  · intro name support hsupport
    obtain ⟨before, after, htext⟩ := exists_holder_lines hsupport harity
    obtain ⟨opening, fields, methods, closing, hlines, hmethods⟩ := indented_lines_eq n
    rw [generics_eq, parameters_eq] at hlines
    refine ⟨before ++ opening, fields, methods, closing ++ after, ?_, hmethods, by simp [generics], by simp [parameters]⟩
    rw [htext, hlines]
    simp only [unlines, List.append_assoc, List.cons_append, generics, parameters]

theorem renderRecord_parts_agree_button :
    let parameter (name type : String) : Element :=
      { Element.named "parameter" with
        attributes := [("name", name)]
        children := [{ Element.named "type" with attributes := [("name", type)] }] }
    let record := (Record.ofElement .objectClass
      { Element.named "class" with
        attributes := [("name", "Button")]
        children := [{ Element.named "signal" with
          attributes := [("name", "moved")], children := [parameter "x" "gint", parameter "hint" "utf8"] }] } 0).value
    let callback := "unsafe extern \"C\" fn(ffi::gpointer, i32, *const std::ffi::c_char, ffi::gpointer)"
    ∃ text before function after support opening fields methods closing output,
      (Boundary.mk {} "ffi").renderRecord ⟨"ffi", "crate::signal"⟩ record = .ok text ∧
      text = String.join ((before ++ function ++ after).map (· ++ "\n")) ∧
      function.filter opensFunction =
        ["    pub fn connect_moved<F>(&self, flags: crate::signal::ConnectFlags, handler: F) -> u64"] ∧
      ["        type SignalHandler = crate::signal::ClosureHolder2<ButtonRef, i32, String, ()>;",
        "",
        "        unsafe extern \"C\" fn trampoline(",
        "            unowned_self: ffi::gpointer,",
        "            arg1: i32,",
        "            arg2: *const std::ffi::c_char,",
        "            user_data: ffi::gpointer,",
        "        ) \x7b",
        "            let holder = unsafe \x7b &*(user_data as *const SignalHandler) \x7d;",
        "            " ++ output ++ ("holder.call(ButtonRef::from_raw(unowned_self.cast()), arg1, "
          ++ "unsafe \x7b std::ffi::CStr::from_ptr(arg2) \x7d.to_string_lossy().into_owned())") ++ ";"] <:+: function ∧
      "        let callback: " ++ callback ++ " = trampoline;" ∈ function ∧
      "                Some(std::mem::transmute::<" ++ callback ++ ", unsafe extern \"C\" fn()>(callback))," ∈ function ∧
      renderSupport "signal" = .ok support ∧
      support = String.join ((opening
        ++ "    pub struct ClosureHolder2<S, A1, A2, R> \x7b" :: fields
        ++ "    impl<S, A1, A2, R> ClosureHolder2<S, A1, A2, R> \x7b" :: methods
        ++ "        pub fn call(&self, this: S, arg1: A1, arg2: A2) -> R \x7b" :: closing).map (· ++ "\n")) := by
  intro parameter record callback
  let b : Boundary := ⟨{}, "ffi"⟩
  let c : Config := {}
  let plan : Plan := ⟨[.fundamental .int32, .fundamental .utf8], .void, .void⟩
  obtain ⟨moved, hrecord, hname, harguments, hreturns, haccepts⟩ :
      ∃ moved, record.signals = [moved] ∧ moved.name = "moved" ∧
        (moved.arguments.map fun a => b.bridge a.type) = [.fundamental .int32, .fundamental .utf8] ∧
        b.bridge moved.returns.type = .void ∧ b.Accepts moved plan :=
    ⟨_, rfl, rfl, by decide, by decide, by decide, by decide, by decide⟩
  have hlength : moved.arguments.length = 2 := by simpa using congrArg List.length harguments
  have hsorts : b.Sorts record.signals [] [(moved, plan)] := by
    rw [hrecord]
    exact .accepted haccepts .nil
  have hsignal : moved ∈ record.signals := by rw [hrecord]; exact List.mem_singleton_self moved
  have hrender : b.renderRecord c.paths record = .ok (unlines (b.recordLines c.paths record [] [(moved, plan)])) :=
    (renderRecord_eq_ok_iff (List.ne_nil_of_mem hsignal)).mpr ⟨_, _, hsorts, rfl⟩
  obtain ⟨_, ⟨before, function, after, htext, hopens, shape, hwritten, hfits, harrow, _⟩, hholder⟩ :=
    renderRecord_parts_agree {} c record _ moved plan hrender hsignal haccepts
  rw [harguments, hreturns] at hfits
  obtain ⟨opening, fields, methods, closing, hsupport, _⟩ := hholder "signal" _ rfl
  have hshape : shape =
      { holder := "ClosureHolder2"
        holderTypes := ["ButtonRef", "i32", "String", "()"]
        names := ["unowned_self", "arg1", "arg2", "user_data"]
        types := ["ffi::gpointer", "i32", "*const std::ffi::c_char", "ffi::gpointer"]
        arrow := ""
        values := ["ButtonRef::from_raw(unowned_self.cast())", "arg1",
          "unsafe \x7b std::ffi::CStr::from_ptr(arg2) \x7d.to_string_lossy().into_owned()"] } := by
    cases shape
    rw [Binding.Shape.mk.injEq]
    exact ⟨hfits.holder.trans (by decide), hfits.holderTypes.trans (by decide), hfits.names.trans (by decide),
      hfits.types.trans (by decide), harrow.trans (by decide), hfits.values.trans (by decide)⟩
  have hdeclaration : shape.declaration c.paths =
      ["        type SignalHandler = crate::signal::ClosureHolder2<ButtonRef, i32, String, ()>;",
        "",
        "        unsafe extern \"C\" fn trampoline(",
        "            unowned_self: ffi::gpointer,",
        "            arg1: i32,",
        "            arg2: *const std::ffi::c_char,",
        "            user_data: ffi::gpointer,",
        "        ) \x7b",
        "            let holder = unsafe \x7b &*(user_data as *const SignalHandler) \x7d;"] := by
    rw [hshape]
    decide
  have hcall : shape.call = "holder.call(ButtonRef::from_raw(unowned_self.cast()), arg1, "
      ++ "unsafe \x7b std::ffi::CStr::from_ptr(arg2) \x7d.to_string_lossy().into_owned())" := by
    rw [hshape]
    decide
  have hpointer : shape.pointerType = callback := by
    rw [hshape]
    decide
  obtain ⟨first, result, connecting, last, output, _, hlines⟩ := hwritten
  rw [hdeclaration, hcall, hpointer] at hlines
  have hgenerics : "S" :: (List.range 2).map (fun i => "A" ++ toString (i + 1)) ++ ["R"] = ["S", "A1", "A2", "R"] := by
    decide
  have hparameters : "this: S" :: (List.range 2).map (fun i => "arg" ++ toString (i + 1) ++ ": A" ++ toString (i + 1)) =
      ["this: S", "arg1: A1", "arg2: A2"] := by decide
  have hstruct : "    pub struct ClosureHolder" ++ toString 2 ++ "<" ++ ", ".intercalate ["S", "A1", "A2", "R"]
      ++ "> \x7b" = "    pub struct ClosureHolder2<S, A1, A2, R> \x7b" := by decide
  have himpl : "    impl<" ++ ", ".intercalate ["S", "A1", "A2", "R"] ++ "> ClosureHolder" ++ toString 2 ++ "<"
      ++ ", ".intercalate ["S", "A1", "A2", "R"] ++ "> \x7b" =
      "    impl<S, A1, A2, R> ClosureHolder2<S, A1, A2, R> \x7b" := by decide
  have hmethod : "        pub fn call(&self, " ++ ", ".intercalate ["this: S", "arg1: A1", "arg2: A2"]
      ++ ") -> R \x7b" = "        pub fn call(&self, this: S, arg1: A1, arg2: A2) -> R \x7b" := by decide
  rw [hlength, hgenerics, hparameters, hstruct, himpl, hmethod] at hsupport
  refine ⟨_, before, function, after, _, opening, fields, methods, closing, output, hrender, htext, ?_, ?_, ?_, ?_, rfl,
    hsupport⟩
  · rw [hopens]
    change ["    pub fn " ++ ("connect_" ++ snakeCase moved.name) ++ "<F>(&self, flags: " ++ "crate::signal"
      ++ "::ConnectFlags, handler: F) -> u64"] = _
    rw [hname]
    decide
  · refine ⟨first, ?rest, ?split⟩
    case split =>
      rw [hlines]
      simp only [List.append_assoc, List.cons_append, List.nil_append]
      rfl
  · rw [hlines]
    simp
  · rw [hlines]
    simp

end Boundary

end Introspection
