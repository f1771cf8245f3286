import Introspection.Repository.Loader

/-!
Texts that are refused. Loading in place changes the loader namespace by namespace and asks only afterwards whether
there was one; even so, a refused text leaves the loader exactly as it was, since the fault is decided by the text.
Attempting a list of texts therefore comes to the same as loading those among them that are accepted.
-/

set_option autoImplicit false

namespace Introspection

open Markup

namespace Loader

def loadSpaces (d : Description) : List Element → StateM Loader Nat
  | [] => pure 0
  | space :: spaces => do
    modify fun l => l.loadNamespace d space
    let loaded ← loadSpaces d spaces
    return loaded + 1

def loadRoot (root : Element) : ExceptT DocumentFault (StateM Loader) Unit := do
  if root.name ≠ "repository" then
    throw (.shape (.wrongRoot root.qualifiedName))
  let spaces := root.childrenNamed "namespace"
  -- The loader has changed with every namespace before it is asked whether there was any.
  let loaded ← loadSpaces ⟨Description.headersOf root, Description.includesOf root, spaces⟩ spaces
  if loaded = 0 then
    throw (.shape .noNamespace)

def loadInPlace (text : String) : ExceptT DocumentFault (StateM Loader) Unit := do
  match readDocument text with
  | .ok root => loadRoot root
  | .error fault => throw fault

theorem loadSpaces_run (d : Description) (spaces : List Element) (l : Loader) :
    (loadSpaces d spaces).run l = (spaces.length, spaces.foldl (fun l space => l.loadNamespace d space) l) := by
  induction spaces generalizing l with
  | nil => rfl
  | cons space spaces ih =>
    have hrest := ih (l.loadNamespace d space)
    change (((loadSpaces d spaces).run (l.loadNamespace d space)).1 + 1,
      ((loadSpaces d spaces).run (l.loadNamespace d space)).2) = _
    rw [hrest]
    rfl

theorem run_lift_bind {α β : Type} (x : StateM Loader α) (f : α → ExceptT DocumentFault (StateM Loader) β)
    (l : Loader) :
    ((liftM x : ExceptT DocumentFault (StateM Loader) α) >>= f).run.run l = (f (x.run l).1).run.run (x.run l).2 :=
  rfl

theorem loadRoot_run (root : Element) (l : Loader) :
    (loadRoot root).run.run l =
      match Description.ofElement root with
      | .ok d => (.ok (), l.loadDescription d)
      | .error fault => (.error (.shape fault), l) := by
  unfold loadRoot Description.ofElement
  by_cases hroot : root.name = "repository"
  · simp only [hroot, ne_eq, not_true_eq_false, if_false, if_true, run_lift_bind, loadSpaces_run]
    cases root.childrenNamed "namespace" with
    | nil => rfl
    | cons space spaces => rfl
  · simp only [hroot, ne_eq, not_false_eq_true, if_true, if_false]
    rfl

/-- Loading in place does what `attempt` does, with the same fault. -/
theorem loadInPlace_run (text : String) (l : Loader) :
    (loadInPlace text).run.run l =
      (match (l.attempt text).2 with
        | none => .ok ()
        | some fault => .error fault,
       (l.attempt text).1) := by
  unfold loadInPlace attempt load Description.read
  cases readDocument text with
  | error fault => rfl
  | ok root =>
    simp only [loadRoot_run]
    cases hroot : Description.ofElement root with
    | ok d =>
      simp only [bind, Except.bind, hroot]
      rfl
    | error fault =>
      simp only [bind, Except.bind, hroot]
      rfl

theorem attempt_eq (l : Loader) (text : String) :
    l.attempt text =
      match Description.read text with
      | .ok d => (l.loadDescription d, none)
      | .error fault => (l, some fault) := by
  unfold attempt load
  cases Description.read text <;> rfl

theorem attempt_refused {l : Loader} {text : String} {fault : DocumentFault} (h : (l.attempt text).2 = some fault) :
    (l.attempt text).1 = l := by
  rw [attempt_eq] at h ⊢
  cases hread : Description.read text with
  | error _ => rfl
  | ok d => simp [hread] at h

theorem attempt_fault_eq (l other : Loader) (text : String) : (l.attempt text).2 = (other.attempt text).2 := by
  rw [attempt_eq, attempt_eq]
  cases Description.read text <;> rfl

theorem attempt_accepted_iff {l : Loader} {text : String} :
    (l.attempt text).2 = none ↔
      ∃ root, readDocument text = .ok root ∧ root.name = "repository" ∧ root.childrenNamed "namespace" ≠ [] := by
  rw [attempt_eq]
  unfold Description.read
  cases readDocument text with
  | error fault => simp [bind, Except.bind]
  | ok root =>
    have hshape : (∃ d, Description.ofElement root = .ok d) ↔
        root.name = "repository" ∧ root.childrenNamed "namespace" ≠ [] := by
      unfold Description.ofElement
      by_cases hroot : root.name = "repository"
      · cases root.childrenNamed "namespace" <;> simp [hroot]
      · simp [hroot]
    simp only [Except.ok.injEq, exists_eq_left', ← hshape]
    cases hroot : Description.ofElement root with
    | ok d =>
      have hread : (Description.ofElement root).mapError DocumentFault.shape = .ok d := by
        rw [hroot]
        rfl
      simp [bind, Except.bind, hread]
    | error fault =>
      have hread : (Description.ofElement root).mapError DocumentFault.shape = .error (.shape fault) := by
        rw [hroot]
        rfl
      simp [bind, Except.bind, hread]

section Preserves

variable {P : Loader → Prop} (hload : ∀ l d space, P l → P (l.loadNamespace d space))
include hload

theorem loadDescription_preserves {l : Loader} (d : Description) (h : P l) : P (l.loadDescription d) := by
  unfold loadDescription
  induction d.namespaces generalizing l with
  | nil => exact h
  | cons space spaces ih => exact ih (hload l d space h)

theorem attemptAll_preserves {l : Loader} (texts : List String) (h : P l) : P (l.attemptAll texts).1 := by
  induction texts generalizing l with
  | nil => exact h
  | cons text texts ih =>
    apply ih
    change P (l.attempt text).1
    rw [attempt_eq]
    cases Description.read text with
    | ok d => exact loadDescription_preserves hload d h
    | error fault => exact h

end Preserves

theorem attemptAll_faults (l : Loader) (texts : List String) :
    (l.attemptAll texts).2 = texts.map fun text => (l.attempt text).2 := by
  induction texts generalizing l with
  | nil => rfl
  | cons text texts ih =>
    change (l.attempt text).2 :: ((l.attempt text).1.attemptAll texts).2 = _
    rw [ih, List.map_cons]
    congr 1
    exact List.map_congr_left fun later _ => attempt_fault_eq _ l later

theorem load_of_accepted {l : Loader} {text : String} (h : (l.attempt text).2 = none) :
    l.load text = .ok (l.attempt text).1 := by
  rw [attempt_eq] at h ⊢
  unfold load
  cases hread : Description.read text with
  | ok d => rfl
  | error fault => simp [hread] at h

/-- The texts that are accepted, loaded without the others, lead to the same loader. -/
theorem loadAll_accepted (l : Loader) (texts : List String) :
    l.loadAll (texts.filter fun text => (l.attempt text).2 = none) = .ok (l.attemptAll texts).1 := by
  induction texts generalizing l with
  | nil => rfl
  | cons text texts ih =>
    have hlater : (texts.filter fun text => (l.attempt text).2 = none) =
        texts.filter fun later => ((l.attempt text).1.attempt later).2 = none :=
      List.filter_congr fun later _ => by rw [attempt_fault_eq l (l.attempt text).1 later]
    have hrest := ih (l.attempt text).1
    rw [← hlater] at hrest
    by_cases haccepted : (l.attempt text).2 = none
    · rw [List.filter_cons_of_pos (by simpa using haccepted)]
      change (l.load text >>= fun loaded => loaded.loadAll _) = _
      rw [load_of_accepted haccepted]
      exact hrest
    · obtain ⟨fault, hfault⟩ := Option.ne_none_iff_exists'.mp haccepted
      rw [List.filter_cons_of_neg (by simpa using haccepted)]
      change _ = Except.ok ((l.attempt text).1.attemptAll texts).1
      rw [attempt_refused hfault] at hrest ⊢
      exact hrest

/-- A refused text leaves no trace. Whatever was loaded before, a fault leaves all of the loader as it was although
    namespaces are loaded in place, and whether there is one depends on the text alone. So attempting texts ends in the
    repository of those among them that are accepted. -/
theorem refused_leaves_no_trace (l : Loader) :
    (∀ text, (loadInPlace text).run.run l =
      (match (l.attempt text).2 with
        | none => .ok ()
        | some fault => .error fault, (l.attempt text).1)) ∧
    (∀ text fault after, (loadInPlace text).run.run l = (.error fault, after) → after = l) ∧
    (∀ text, (l.attempt text).2 = none ↔
      ∃ root, readDocument text = .ok root ∧ root.name = "repository" ∧ root.childrenNamed "namespace" ≠ []) ∧
    (∀ text (other : Loader), ((loadInPlace text).run.run l).1 = ((loadInPlace text).run.run other).1) ∧
    (∀ texts, (l.attemptAll texts).2 = texts.map fun text => (l.attempt text).2) ∧
    ∀ texts, ∃ kept, l.loadAll (texts.filter fun text => (l.attempt text).2 = none) = .ok kept ∧
      kept.finish = (l.attemptAll texts).1.finish := by
  refine ⟨fun text => loadInPlace_run text l, ?_, fun text => attempt_accepted_iff, ?_, l.attemptAll_faults,
    fun texts => ⟨_, l.loadAll_accepted texts, rfl⟩⟩
  · intro text fault after hrun
    rw [loadInPlace_run] at hrun
    obtain ⟨houtcome, rfl⟩ := Prod.mk.inj hrun
    cases hfault : (l.attempt text).2 with
    | some found => exact attempt_refused hfault
    | none => simp [hfault] at houtcome
  · intro text other
    rw [loadInPlace_run, loadInPlace_run, attempt_fault_eq l other]

end Loader

end Introspection
