import Introspection.Proofs.Table
import Introspection.Registry.Builder

set_option autoImplicit false

namespace Introspection

namespace Registry

def accept (r : Registry) (space : Option String) (d : Declaration) : Registry :=
  (r.addDerived space d).addEntity space d

/-- Views, name sets and conversions are all that a declaration brings beside itself. -/
theorem addDerived_frame (r : Registry) (space : Option String) (d : Declaration) :
    let u := r.addDerived space d
    u.entities = r.entities ∧ u.index = r.index ∧ u.qualified = r.qualified ∧ u.warnings = r.warnings := by
  cases d with
  | record record => cases space <;> exact ⟨rfl, rfl, rfl, rfl⟩
  | typeAlias _ | constant _ | enumeration _ | bitfield _ | callback _ => exact ⟨rfl, rfl, rfl, rfl⟩

@[simp] theorem accept_entities (r : Registry) (space : Option String) (d : Declaration) :
    (r.accept space d).entities = r.entities ++ [d] := by
  change (r.addDerived space d).entities ++ [d] = _
  rw [(r.addDerived_frame space d).1]

@[simp] theorem accept_warnings (r : Registry) (space : Option String) (d : Declaration) :
    (r.accept space d).warnings = r.warnings :=
  (r.addDerived_frame space d).2.2.2

@[simp] theorem accept_index (r : Registry) (space : Option String) (d : Declaration) :
    (r.accept space d).index = r.index.insert d.name r.size := by
  obtain ⟨hentities, hindex, _, _⟩ := r.addDerived_frame space d
  change (r.addDerived space d).index.insert d.name (r.addDerived space d).entities.length = _
  rw [hentities, hindex]
  rfl

@[simp] theorem accept_qualified_none (r : Registry) (d : Declaration) :
    (r.accept none d).qualified = r.qualified :=
  (r.addDerived_frame none d).2.2.1

@[simp] theorem accept_qualified_some (r : Registry) (space : String) (d : Declaration) :
    (r.accept (some space) d).qualified = r.qualified.insertNew (qualify space d.name) r.size := by
  obtain ⟨hentities, _, hqualified, _⟩ := r.addDerived_frame (some space) d
  change (r.addDerived (some space) d).qualified.insertNew (qualify space d.name)
    (r.addDerived (some space) d).entities.length = _
  rw [hentities, hqualified]
  rfl

end Registry

namespace Builder

theorem warnAll_eq (b : Builder) (ws : List Warning) :
    b.warnAll ws = { b with registry := { b.registry with warnings := b.registry.warnings ++ ws } } := by
  unfold warnAll
  induction ws generalizing b with
  | nil => simp
  | cons w ws ih =>
    rw [List.foldl_cons, ih]
    simp [warn, Registry.warn]

theorem register_taken {b : Builder} {d : Declaration} {id : Nat}
    (h : b.registry.index.get? d.name = some id) :
    b.register d = (b.warn (.duplicate d.kind d.name), none) := by
  have hc : b.contains d.name = true := by simp [contains, Table.contains, h]
  simp [register, hc]

theorem register_free {b : Builder} {d : Declaration} (h : b.registry.index.get? d.name = none) :
    b.register d = ({ b with registry := b.registry.accept b.space d }, some b.registry.size) := by
  have hc : b.contains d.name = false := (Table.contains_eq_false_iff _ _).mpr h
  simp [register, hc, Registry.accept]

def acceptedBy (b : Builder) : Operation → List (Option String × Declaration)
  | .register d => if b.contains d.name then [] else [(b.space, d)]
  | .enter _ | .warn _ => []

theorem acceptedBy_free {b : Builder} {d : Declaration} (h : b.registry.index.get? d.name = none) :
    b.acceptedBy (.register d) = [(b.space, d)] := by
  have hc : b.contains d.name = false := (Table.contains_eq_false_iff _ _).mpr h
  simp [acceptedBy, hc]

theorem acceptedBy_taken {b : Builder} {d : Declaration} {id : Nat} (h : b.registry.index.get? d.name = some id) :
    b.acceptedBy (.register d) = [] := by
  have hc : b.contains d.name = true := by simp [contains, Table.contains, h]
  simp [acceptedBy, hc]

/-- Everything that an operation can do: it accepts one declaration or leaves all but the warnings alone. -/
theorem apply_cases (b : Builder) (op : Operation) :
    (b.acceptedBy op = [] ∧
      ∃ ws, (b.apply op).registry = { b.registry with warnings := b.registry.warnings ++ ws }) ∨
    ∃ d, op = .register d ∧ b.acceptedBy op = [(b.space, d)] ∧ b.registry.index.get? d.name = none ∧
      (b.apply op).registry = b.registry.accept b.space d := by
  cases op with
  | enter space => exact Or.inl ⟨rfl, [], by simp [apply, enter]⟩
  | warn w => exact Or.inl ⟨rfl, [w], rfl⟩
  | register d =>
    cases h : b.registry.index.get? d.name with
    | some id =>
      exact Or.inl ⟨acceptedBy_taken h, [.duplicate d.kind d.name], by rw [apply, register_taken h]; rfl⟩
    | none => exact Or.inr ⟨d, rfl, acceptedBy_free h, h, by rw [apply, register_free h]⟩

theorem apply_registry_cases (b : Builder) (op : Operation) :
    (∃ ws, (b.apply op).registry = { b.registry with warnings := b.registry.warnings ++ ws }) ∨
    ∃ d, op = .register d ∧ b.registry.index.get? d.name = none ∧
      (b.apply op).registry = b.registry.accept b.space d := by
  obtain ⟨_, hwarned⟩ | ⟨d, hop, _, hfree, hregistry⟩ := b.apply_cases op
  · exact Or.inl hwarned
  · exact Or.inr ⟨d, hop, hfree, hregistry⟩

theorem run_append (b : Builder) (ops later : List Operation) : b.run (ops ++ later) = (b.run ops).run later :=
  List.foldl_append

theorem run_concat (b : Builder) (ops : List Operation) (op : Operation) :
    b.run (ops ++ [op]) = (b.run ops).apply op :=
  b.run_append ops [op]

theorem run_preserves {P : Registry → Prop}
    (hwarn : ∀ r ws, P r → P { r with warnings := r.warnings ++ ws })
    (haccept : ∀ r space d, r.index.get? d.name = none → P r → P (r.accept space d))
    (b : Builder) (ops : List Operation) (h : P b.registry) : P (b.run ops).registry := by
  induction ops generalizing b with
  | nil => exact h
  | cons op ops ih =>
    apply ih
    obtain ⟨ws, hws⟩ | ⟨d, _, hfree, hd⟩ := b.apply_registry_cases op
    · rw [hws]
      exact hwarn _ ws h
    · rw [hd]
      exact haccept _ b.space d hfree h

/-- Some operation of the sequence registers `d` at position `id`, and `space` is the namespace then. -/
def Registers (b : Builder) (ops : List Operation) (space : Option String) (d : Declaration) (id : Nat) : Prop :=
  ∃ before after, ops = before ++ .register d :: after ∧ (b.run before).space = space ∧
    ((b.run before).register d).2 = some id

theorem Registers.append {b : Builder} {ops : List Operation} {space : Option String} {d : Declaration} {id : Nat}
    (h : b.Registers ops space d id) (later : List Operation) : b.Registers (ops ++ later) space d id := by
  obtain ⟨before, after, hops, hspace, hid⟩ := h
  refine ⟨before, after ++ later, ?_, hspace, hid⟩
  rw [hops, List.append_assoc, List.cons_append]

theorem registers_concat {b : Builder} {ops : List Operation} {d : Declaration}
    (h : (b.run ops).registry.index.get? d.name = none) :
    b.Registers (ops ++ [.register d]) (b.run ops).space d (b.run ops).registry.size :=
  ⟨ops, [], rfl, rfl, by rw [register_free h]⟩

end Builder

theorem Registry.Reachable.induction {P : Registry → Prop} (hstart : P {})
    (hwarn : ∀ r ws, P r → P { r with warnings := r.warnings ++ ws })
    (haccept : ∀ r space d, r.index.get? d.name = none → P r → P (r.accept space d)) {r : Registry}
    (h : r.Reachable) : P r := by
  obtain ⟨ops, rfl⟩ := h
  exact Builder.run_preserves hwarn haccept {} ops hstart

end Introspection
