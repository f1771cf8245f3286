import Introspection.Proofs.Bridge.Cases
import Introspection.Registry.Builder

set_option autoImplicit false

namespace Introspection

open Markup

/-- How many pointers a written type begins with. -/
def pointerDepth : List Char → Nat
  | '*' :: 'm' :: 'u' :: 't' :: ' ' :: rest => pointerDepth rest + 1
  | '*' :: 'c' :: 'o' :: 'n' :: 's' :: 't' :: ' ' :: rest => pointerDepth rest + 1
  | _ => 0

theorem prefix_of_prefix_append_cons {α : Type} {beginning xs rest : List α} {x : α} (hx : x ∉ beginning)
    (h : beginning <+: xs ++ x :: rest) : beginning <+: xs := by
  induction beginning generalizing xs with
  | nil => exact List.nil_prefix
  | cons y beginning ih =>
    cases xs with
    | nil =>
      have hy : y = x := (List.cons_prefix_cons.mp h).1
      exact absurd hy.symm (List.ne_of_not_mem_cons hx)
    | cons z xs =>
      obtain ⟨hyz, hrest⟩ := List.cons_prefix_cons.mp h
      exact List.cons_prefix_cons.mpr ⟨hyz, ih (List.not_mem_of_not_mem_cons hx) hrest⟩

-- A path is cut off by its first colon, which no pointer has, so what follows the colon cannot complete one.
theorem pointerDepth_append_colon (cs rest : List Char) : pointerDepth (cs ++ ':' :: rest) = pointerDepth cs := by
  fun_induction pointerDepth cs with
  | case1 cs ih => exact congrArg (· + 1) ih
  | case2 cs ih => exact congrArg (· + 1) ih
  | case3 cs hmut hconst =>
    unfold pointerDepth
    split
    · next more heq =>
      have hbegins : "*mut ".toList <+: cs :=
        prefix_of_prefix_append_cons (by decide) ⟨more, heq.symm⟩
      obtain ⟨after, hafter⟩ := hbegins
      exact absurd hafter.symm (hmut after)
    · next more heq =>
      have hbegins : "*const ".toList <+: cs :=
        prefix_of_prefix_append_cons (by decide) ⟨more, heq.symm⟩
      obtain ⟨after, hafter⟩ := hbegins
      exact absurd hafter.symm (hconst after)
    · rfl

theorem pointerDepth_join_replicate {pointer : String} (hpointer : pointer = "*mut " ∨ pointer = "*const ")
    (level : Nat) (rest : List Char) :
    pointerDepth ((String.join (List.replicate level pointer)).toList ++ rest) = level + pointerDepth rest := by
  induction level with
  | zero => simp
  | succ level ih =>
    rw [List.replicate_succ, String.join_cons, String.toList_append, List.append_assoc]
    have hone : ∀ cs, pointerDepth (pointer.toList ++ cs) = pointerDepth cs + 1 := by
      intro cs
      obtain rfl | rfl := hpointer
      · rfl
      · rfl
    rw [hone, ih]
    omega

namespace Boundary

theorem pointerDepth_verbatimType (b : Boundary) (t : TypeRef) :
    pointerDepth (b.verbatimType t).toList = t.level + pointerDepth b.ffi.toList := by
  have hpointer : (if isConstPointer t then "*const " else "*mut ") = "*mut " ∨
      (if isConstPointer t then "*const " else "*mut ") = "*const " := by
    cases isConstPointer t
    · exact Or.inl rfl
    · exact Or.inr rfl
  have hpath := pointerDepth_append_colon b.ffi.toList (':' :: t.baseOrName.toList)
  unfold verbatimType
  simp only [String.toList_append, List.append_assoc]
  rw [pointerDepth_join_replicate hpointer]
  exact congrArg (t.level + ·) hpath

/-- The spelling is pointed at as often as the type that crosses: an enumerated value not at all, a record once, a
    string once and any other fundamental type not at all. A verbatim type has the pointers that its path has and one
    for each of the spelling. -/
def KeepsDepth (b : Boundary) (t : TypeRef) : Prop :=
  match b.bridge t with
  | .void | .typeAlias _ => True
  | .enumeration _ | .bitfield _ _ => t.level = 0
  | .record _ => t.level = 1
  | .fundamental f => t.level = if f.isString then 1 else 0
  | .verbatim type => pointerDepth type.toList = t.level + pointerDepth b.ffi.toList

theorem bridge_eq_of_name_eq (b : Boundary) {t u : TypeRef} (hname : u.name = t.name) (hvoid : u.isVoid = t.isVoid)
    (hknown : b.registry.classify t ≠ .fundamental) : b.bridge u = b.bridge t := by
  have hclass : b.registry.classify u = b.registry.classify t := by
    unfold Registry.classify
    rw [hname]
  have hbase : u.base = t.base := congrArg baseName hname
  unfold bridge
  rw [hvoid, hclass]
  cases hcase : b.registry.classify t with
  | fundamental => exact absurd hcase hknown
  | record | typeAlias => simp only [hname]
  | bitfield => simp only [bitfieldBridge, hname, hbase]
  | enumeration => simp only [enumerationBridge, hname, hbase]

theorem keepsDepth_of_value_iff (b : Boundary) {t : TypeRef} (hspelling : t.spelling ≠ "")
    (hvalue : t.isVoid = false) :
    b.KeepsDepth t ↔
      (b.registry.classify t = .enumeration ∨ b.registry.classify t = .bitfield → t.level = 0) ∧
      (b.registry.classify t = .record → t.level = 1) := by
  unfold KeepsDepth
  obtain ⟨hclass, _, h⟩ | ⟨hclass, _, _, h⟩ | ⟨hclass, _, h⟩ | ⟨hclass, h⟩ | ⟨hclass, ⟨f, _, hfits, h⟩ | h⟩ :=
    b.bridge_cases hvalue
  · simp [h, hclass]
  · simp [h, hclass]
  · simp [h, hclass]
  · simp [h, hclass]
  · have hlevel : t.level = if f.isString then 1 else 0 := by simpa [fits, hspelling] using hfits
    simp [h, hclass, hlevel]
  · simp [h, hclass, b.pointerDepth_verbatimType t]

/-- Where the depth of a spelling is kept: always for fundamental and unknown types, and for a known enumeration,
    bitfield or record exactly if the spelling has the depth that their bridge takes for granted. Nothing makes it
    have that depth, since all occurrences of a known name have the same bridge. -/
theorem keepsDepth_iff (b : Boundary) (t : TypeRef) (hspelling : t.spelling ≠ "") :
    (b.KeepsDepth t ↔ t.isVoid = true ∨
      (b.registry.classify t = .enumeration ∨ b.registry.classify t = .bitfield → t.level = 0) ∧
      (b.registry.classify t = .record → t.level = 1)) ∧
    (b.registry.classify t ≠ .fundamental →
      ∀ u : TypeRef, u.name = t.name → u.isVoid = t.isVoid → b.bridge u = b.bridge t) := by
  refine ⟨?_, fun hknown u hname hvoid => b.bridge_eq_of_name_eq hname hvoid hknown⟩
  cases hvalue : t.isVoid with
  | false => simpa using b.keepsDepth_of_value_iff hspelling hvalue
  | true =>
    have hbridge : b.bridge t = .void := bridge_eq_void_iff.mpr hvalue
    simp [KeepsDepth, hbridge]

theorem keepsDepth_color :
    let color : Declaration := .enumeration (.ofElement
      { Element.named "enumeration" with attributes := [("name", "Color"), ("type", "TestColor")] } 0)
    let b : Boundary := ⟨(({} : Builder).run [.enter "Test", .register color]).registry, "ffi"⟩
    let t := TypeRef.of "Test.Color" "const TestColor"
    let u := TypeRef.of "Gdk.Event" "GdkEvent**"
    b.bridge t = .enumeration "Color" ∧ b.bridge u = .verbatim "*mut *mut ffi::GdkEvent" ∧
      b.KeepsDepth t ∧ b.KeepsDepth u := by
  intro color b t u
  have ht : t.spelling ≠ "" ∧ b.registry.classify t = .enumeration ∧ t.level = 0 := by decide
  have hu : u.spelling ≠ "" ∧ b.registry.classify u = .fundamental := by decide
  obtain ⟨htspelling, htclass, hlevel⟩ := ht
  obtain ⟨huspelling, huclass⟩ := hu
  refine ⟨by decide, by decide, (keepsDepth_iff b t htspelling).1.mpr ?_, (keepsDepth_iff b u huspelling).1.mpr ?_⟩
  · exact Or.inr ⟨fun _ => hlevel, by simp [htclass]⟩
  · exact Or.inr ⟨by simp [huclass], by simp [huclass]⟩

/-- Pointers to an enumeration and to a bitfield cross as numbers, and a record that is passed by value crosses as a
    pointer. -/
theorem not_keepsDepth_known :
    let spelled (kind name spelling : String) : Element :=
      { Element.named kind with attributes := [("name", name), ("type", spelling)] }
    let ops : List Builder.Operation := [.enter "Test",
      .register (.enumeration (.ofElement (spelled "enumeration" "Color" "TestColor") 0)),
      .register (.bitfield (.ofElement (spelled "bitfield" "StateFlags" "TestStateFlags") 0)),
      .register (.record (Record.ofElement .record (spelled "record" "Point" "TestPoint") 0).value)]
    let b : Boundary := ⟨(({} : Builder).run ops).registry, "ffi"⟩
    let color := TypeRef.of "Color" "TestColor*"
    let state := TypeRef.of "StateFlags" "TestStateFlags*"
    let point := TypeRef.of "Point" "TestPoint"
    (color.level = 1 ∧ b.bridge color = .enumeration "Color" ∧ b.abi (b.bridge color) = "u32") ∧
    (state.level = 1 ∧ b.bridge state = .bitfield "StateFlags" (some "TestStateFlags") ∧
      b.abi (b.bridge state) = "u32") ∧
    (point.level = 0 ∧ b.bridge point = .record "PointRef" ∧ b.abi (b.bridge point) = "ffi::gpointer") ∧
    ¬ b.KeepsDepth color ∧ ¬ b.KeepsDepth state ∧ ¬ b.KeepsDepth point := by
  intro spelled ops b color state point
  have hcolor : color.level = 1 ∧ b.bridge color = .enumeration "Color" ∧ b.abi (b.bridge color) = "u32" := by decide
  have hstate : state.level = 1 ∧ b.bridge state = .bitfield "StateFlags" (some "TestStateFlags") ∧
      b.abi (b.bridge state) = "u32" := by decide
  have hpoint : point.level = 0 ∧ b.bridge point = .record "PointRef" ∧ b.abi (b.bridge point) = "ffi::gpointer" := by
    decide
  refine ⟨hcolor, hstate, hpoint, ?_, ?_, ?_⟩
  · simp [KeepsDepth, hcolor]
  · simp [KeepsDepth, hstate]
  · simp [KeepsDepth, hpoint]

end Boundary

end Introspection
