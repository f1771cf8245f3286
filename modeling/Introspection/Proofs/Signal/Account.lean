import Introspection.Proofs.Outcome
import Introspection.Proofs.Signal.Lines

set_option autoImplicit false

namespace Introspection

open Markup Text

namespace Boundary

/-- A signal that a rule rejects, or one that all rules pass and that cannot be planned. -/
def Rejects (b : Boundary) (signal : Callable) (reason : Rejection) : Prop :=
  b.registry.rejection? signal = some reason ∨
    b.registry.rejection? signal = none ∧ signal.arguments.length ≤ maxArity ∧ b.plan signal = .error reason

def Accepts (b : Boundary) (signal : Callable) (plan : Plan) : Prop :=
  b.registry.rejection? signal = none ∧ signal.arguments.length ≤ maxArity ∧ b.plan signal = .ok plan

instance (b : Boundary) (signal : Callable) (plan : Plan) : Decidable (b.Accepts signal plan) :=
  inferInstanceAs (Decidable (_ ∧ _ ∧ _))

theorem prepare_eq_rejected_iff {b : Boundary} {record : Record} {signal : Callable} {reason : Rejection} :
    b.prepare record signal = .ok (.error reason) ↔ b.Rejects signal reason := by
  unfold prepare Rejects
  cases hrule : b.registry.rejection? signal with
  | some other => simp
  | none =>
    by_cases harity : signal.arguments.length ≤ maxArity
    · simp [harity]
    · simp [harity]

theorem prepare_eq_accepted_iff {b : Boundary} {record : Record} {signal : Callable} {plan : Plan} :
    b.prepare record signal = .ok (.ok plan) ↔ b.Accepts signal plan := by
  unfold prepare Accepts
  cases hrule : b.registry.rejection? signal with
  | some other => simp
  | none =>
    by_cases harity : signal.arguments.length ≤ maxArity
    · simp [harity]
    · simp [harity]

theorem Accepts.not_rejects {b : Boundary} {signal : Callable} {plan : Plan} (h : b.Accepts signal plan)
    (reason : Rejection) : ¬ b.Rejects signal reason := by
  obtain ⟨hrule, _, hplan⟩ := h
  rintro (hother | ⟨_, _, hother⟩)
  · exact absurd (hrule.symm.trans hother) (by simp)
  · exact absurd (hplan.symm.trans hother) (by simp)

/-- Every signal goes to one of two groups, with its reason or its plan, and both groups keep the order. -/
inductive Sorts (b : Boundary) : List Callable → List (Callable × Rejection) → List (Callable × Plan) → Prop where
  | nil : Sorts b [] [] []
  | rejected {signal : Callable} {reason : Rejection} {signals : List Callable}
      {rejected : List (Callable × Rejection)} {accepted : List (Callable × Plan)} (h : b.Rejects signal reason)
      (hrest : Sorts b signals rejected accepted) : Sorts b (signal :: signals) ((signal, reason) :: rejected) accepted
  | accepted {signal : Callable} {plan : Plan} {signals : List Callable}
      {rejected : List (Callable × Rejection)} {accepted : List (Callable × Plan)} (h : b.Accepts signal plan)
      (hrest : Sorts b signals rejected accepted) : Sorts b (signal :: signals) rejected ((signal, plan) :: accepted)

namespace Sorts

variable {b : Boundary} {signals : List Callable} {rejected : List (Callable × Rejection)}
  {accepted : List (Callable × Plan)}

theorem rejects_of_mem (h : b.Sorts signals rejected accepted) {signal : Callable} {reason : Rejection}
    (hmem : (signal, reason) ∈ rejected) : b.Rejects signal reason := by
  induction h with
  | nil => simp at hmem
  | rejected hfirst _ ih =>
    obtain heq | hrest := List.mem_cons.mp hmem
    · cases heq
      exact hfirst
    · exact ih hrest
  | accepted _ _ ih => exact ih hmem

theorem accepts_of_mem (h : b.Sorts signals rejected accepted) {signal : Callable} {plan : Plan}
    (hmem : (signal, plan) ∈ accepted) : b.Accepts signal plan := by
  induction h with
  | nil => simp at hmem
  | rejected _ _ ih => exact ih hmem
  | accepted hfirst _ ih =>
    obtain heq | hrest := List.mem_cons.mp hmem
    · cases heq
      exact hfirst
    · exact ih hrest

theorem sublists (h : b.Sorts signals rejected accepted) :
    (rejected.map Prod.fst).Sublist signals ∧ (accepted.map Prod.fst).Sublist signals := by
  induction h with
  | nil => exact ⟨List.Sublist.slnil, List.Sublist.slnil⟩
  | @rejected signal _ _ _ _ _ _ ih => exact ⟨ih.1.cons_cons signal, ih.2.cons signal⟩
  | @accepted signal _ _ _ _ _ _ ih => exact ⟨ih.1.cons signal, ih.2.cons_cons signal⟩

theorem perm (h : b.Sorts signals rejected accepted) :
    (rejected.map Prod.fst ++ accepted.map Prod.fst).Perm signals := by
  induction h with
  | nil => exact List.Perm.nil
  | @rejected signal _ _ _ _ _ _ ih => exact ih.cons signal
  | @accepted signal _ _ _ _ _ _ ih => exact List.perm_middle.trans (ih.cons signal)

theorem xor_of_mem (h : b.Sorts signals rejected accepted) {signal : Callable} (hmem : signal ∈ signals) :
    Xor (∃ reason, (signal, reason) ∈ rejected) (∃ plan, (signal, plan) ∈ accepted) := by
  have hexclude : ¬ ((∃ reason, (signal, reason) ∈ rejected) ∧ ∃ plan, (signal, plan) ∈ accepted) := by
    rintro ⟨⟨reason, hreason⟩, plan, hplan⟩
    exact (h.accepts_of_mem hplan).not_rejects reason (h.rejects_of_mem hreason)
  obtain hrejected | haccepted := List.mem_append.mp (h.perm.mem_iff.mpr hmem)
  · obtain ⟨⟨_, reason⟩, hreason, rfl⟩ := List.mem_map.mp hrejected
    exact Or.inl ⟨⟨reason, hreason⟩, fun hplan => hexclude ⟨⟨reason, hreason⟩, hplan⟩⟩
  · obtain ⟨⟨_, plan⟩, hplan, rfl⟩ := List.mem_map.mp haccepted
    exact Or.inr ⟨⟨plan, hplan⟩, fun hreason => hexclude ⟨hreason, plan, hplan⟩⟩

end Sorts

def rejected? (j : Judged) : Option (Callable × Rejection) :=
  match j.outcome with
  | .error reason => some (j.signal, reason)
  | .ok _ => none

def accepted? (j : Judged) : Option (Callable × Plan) :=
  match j.outcome with
  | .ok plan => some (j.signal, plan)
  | .error _ => none

theorem judge_eq_ok_iff {b : Boundary} {record : Record} {signal : Callable} {j : Judged} :
    b.judge record signal = .ok j ↔ j.signal = signal ∧ b.prepare record signal = .ok j.outcome := by
  unfold judge
  cases b.prepare record signal with
  | error fault => simp [Except.map]
  | ok outcome =>
    obtain ⟨other, found⟩ := j
    simp [Except.map, eq_comm]

theorem sorts_of_judged {b : Boundary} {record : Record} {signals : List Callable} {judged : List Judged}
    (h : List.Forall₂ (fun signal j => b.judge record signal = .ok j) signals judged) :
    b.Sorts signals (judged.filterMap rejected?) (judged.filterMap accepted?) := by
  induction h with
  | nil => exact .nil
  | @cons signal j _ _ hj _ ih =>
    obtain ⟨rfl, hprepare⟩ := judge_eq_ok_iff.mp hj
    obtain ⟨signal, outcome⟩ := j
    cases outcome with
    | error reason => exact .rejected (prepare_eq_rejected_iff.mp hprepare) ih
    | ok plan => exact .accepted (prepare_eq_accepted_iff.mp hprepare) ih

theorem Sorts.exists_judged {b : Boundary} (record : Record) {signals : List Callable}
    {rejected : List (Callable × Rejection)} {accepted : List (Callable × Plan)}
    (h : b.Sorts signals rejected accepted) :
    ∃ judged, List.Forall₂ (fun signal j => b.judge record signal = .ok j) signals judged ∧
      judged.filterMap rejected? = rejected ∧ judged.filterMap accepted? = accepted := by
  induction h with
  | nil => exact ⟨[], .nil, rfl, rfl⟩
  | @rejected signal reason _ _ _ hfirst _ ih =>
    obtain ⟨judged, hjudged, rfl, rfl⟩ := ih
    have hj : b.judge record signal = .ok ⟨signal, .error reason⟩ :=
      judge_eq_ok_iff.mpr ⟨rfl, prepare_eq_rejected_iff.mpr hfirst⟩
    exact ⟨⟨signal, .error reason⟩ :: judged, .cons hj hjudged, rfl, rfl⟩
  | @accepted signal plan _ _ _ hfirst _ ih =>
    obtain ⟨judged, hjudged, rfl, rfl⟩ := ih
    have hj : b.judge record signal = .ok ⟨signal, .ok plan⟩ :=
      judge_eq_ok_iff.mpr ⟨rfl, prepare_eq_accepted_iff.mpr hfirst⟩
    exact ⟨⟨signal, .ok plan⟩ :: judged, .cons hj hjudged, rfl, rfl⟩

/-- A comment line that says why a signal has no binding. -/
def warningLine (rejected : Callable × Rejection) : String :=
  "// Warning: signal " ++ rejected.1.name ++ " is ignored because " ++ rejected.2.message

def blockLines (b : Boundary) (p : Paths) (record : Record) (accepted : List (Callable × Plan)) : List String :=
  if accepted = [] then []
  else
    ("impl " ++ b.selfHandle record ++ " \x7b")
      :: [""].intercalate (accepted.map fun a => (b.binding record a.1 a.2).lines p) ++ ["\x7d"]

def recordLines (b : Boundary) (p : Paths) (record : Record) (rejected : List (Callable × Rejection))
    (accepted : List (Callable × Plan)) : List String :=
  ("// Signals of " ++ record.kind.title ++ " named " ++ record.name)
    :: rejected.map warningLine ++ b.blockLines p record accepted ++ [""]

theorem filterMap_rejectionComment? (judged : List Judged) :
    String.join (judged.filterMap rejectionComment?) = unlines ((judged.filterMap rejected?).map warningLine) := by
  have hcomment : ∀ j : Judged, rejectionComment? j = (rejected? j).map fun r => warningLine r ++ "\n" := by
    rintro ⟨signal, outcome⟩
    cases outcome with
    | error reason => rfl
    | ok plan => rfl
  rw [unlines, List.map_map, List.map_filterMap]
  exact congrArg String.join (List.filterMap_congr fun j _ => hcomment j)

theorem filterMap_bindingText? (b : Boundary) (p : Paths) (record : Record) (judged : List Judged) :
    judged.filterMap (b.bindingText? p record) =
      (judged.filterMap accepted?).map fun a => unlines ((b.binding record a.1 a.2).lines p) := by
  rw [List.map_filterMap]
  apply List.filterMap_congr
  rintro ⟨signal, outcome⟩ _
  cases outcome with
  | error reason => rfl
  | ok plan => rfl

theorem blockText_eq_unlines (b : Boundary) (p : Paths) (record : Record) (accepted : List (Callable × Plan)) :
    b.blockText record (accepted.map fun a => unlines ((b.binding record a.1 a.2).lines p)) =
      unlines (b.blockLines p record accepted) := by
  unfold blockText blockLines
  by_cases hnone : accepted = []
  · simp [hnone, unlines]
  · have hopen : " \x7b\n" = " \x7b" ++ "\n" := by decide
    have hclose : unlines ["\x7d"] = "\x7d\n" := by decide
    rw [if_neg (by simpa using hnone), if_neg hnone, unlines_append, unlines_cons, unlines_intercalate, List.map_map,
      hclose, hopen]
    simp only [String.append_assoc, Function.comp_def]

theorem renderRecord_eq_ok_iff {b : Boundary} {p : Paths} {record : Record} (hsignals : record.signals ≠ [])
    {text : String} :
    b.renderRecord p record = .ok text ↔
      ∃ rejected accepted, b.Sorts record.signals rejected accepted ∧
        text = unlines (b.recordLines p record rejected accepted) := by
  have htext : ∀ judged : List Judged,
      "// Signals of " ++ record.kind.title ++ " named " ++ record.name ++ "\n"
          ++ String.join (judged.filterMap rejectionComment?)
          ++ b.blockText record (judged.filterMap (b.bindingText? p record)) ++ "\n" =
        unlines (b.recordLines p record (judged.filterMap rejected?) (judged.filterMap accepted?)) := by
    intro judged
    have hend : unlines [""] = "\n" := by decide
    rw [filterMap_rejectionComment?, filterMap_bindingText?, blockText_eq_unlines, recordLines, unlines_append,
      unlines_append, unlines_cons, hend]
  have hrender : b.renderRecord p record =
      (record.signals.mapM (b.judge record)).map fun judged =>
        unlines (b.recordLines p record (judged.filterMap rejected?) (judged.filterMap accepted?)) := by
    unfold renderRecord
    rw [if_neg (by simpa using hsignals)]
    cases record.signals.mapM (b.judge record) with
    | error fault => rfl
    | ok judged => exact congrArg Except.ok (htext judged)
  rw [hrender, map_eq_ok_iff]
  constructor
  · rintro ⟨judged, hjudged, rfl⟩
    exact ⟨_, _, sorts_of_judged (mapM_eq_ok_iff.mp hjudged), rfl⟩
  · rintro ⟨rejected, accepted, hsorts, rfl⟩
    obtain ⟨judged, hjudged, rfl, rfl⟩ := hsorts.exists_judged record
    exact ⟨judged, mapM_eq_ok_iff.mpr hjudged, rfl⟩

theorem filter_blockLines (b : Boundary) (p : Paths) (record : Record) (accepted : List (Callable × Plan)) :
    (b.blockLines p record accepted).filter opensFunction =
      accepted.map fun a => (b.binding record a.1 a.2).signature p := by
  unfold blockLines
  split
  · next hnone => rw [hnone]; rfl
  · have hopen : opensFunction ("impl " ++ b.selfHandle record ++ " \x7b") = false := by
      rw [String.append_assoc]
      exact opensFunction_ofList_append rfl (by decide) _
    have hclose : ["\x7d"].filter opensFunction = [] := by decide
    rw [List.filter_append, List.filter_cons_of_neg (by simp [hopen]), filter_opensFunction_intercalate, hclose,
      List.append_nil, List.flatMap_map]
    simp only [Binding.filter_lines, List.map_eq_flatMap]

theorem filter_recordLines (b : Boundary) (p : Paths) (record : Record) (rejected : List (Callable × Rejection))
    (accepted : List (Callable × Plan)) :
    (b.recordLines p record rejected accepted).filter opensFunction =
      accepted.map fun a => (b.binding record a.1 a.2).signature p := by
  have hheader : opensFunction ("// Signals of " ++ record.kind.title ++ " named " ++ record.name) = false := by
    simp only [String.append_assoc]
    exact opensFunction_ofList_append rfl (by decide) _
  have hwarning : ∀ r : Callable × Rejection, opensFunction (warningLine r) = false := by
    intro r
    unfold warningLine
    rw [String.append_assoc, String.append_assoc]
    exact opensFunction_ofList_append rfl (by decide) _
  have hwarnings : (rejected.map warningLine).filter opensFunction = [] := by
    rw [List.filter_eq_nil_iff, List.forall_mem_map]
    intro r _
    rw [hwarning r]
    exact Bool.false_ne_true
  unfold recordLines
  rw [List.filter_append, List.filter_append, List.filter_cons_of_neg (by simp [hheader]), hwarnings,
    filter_opensFunction_blank, filter_blockLines, List.nil_append, List.append_nil]

theorem filter_splitOn_recordLines {b : Boundary} {p : Paths} {record : Record} {rejected : List (Callable × Rejection)}
    {accepted : List (Callable × Plan)} (h : ∀ line ∈ b.recordLines p record rejected accepted, '\n' ∉ line.toList) :
    (((unlines (b.recordLines p record rejected accepted)).toList.splitOn '\n').map String.ofList).filter opensFunction =
      accepted.map fun a => (b.binding record a.1 a.2).signature p := by
  rw [splitOn_unlines h, List.filter_append, filter_recordLines, filter_opensFunction_blank, List.append_nil]

theorem blockLines_eq_nil_iff {b : Boundary} {p : Paths} {record : Record} {accepted : List (Callable × Plan)} :
    b.blockLines p record accepted = [] ↔ accepted = [] := by
  unfold blockLines
  split
  · next hnone => simp [hnone]
  · next hsome => simp [hsome]

/-- Every signal of a record has either one warning or one connecting function in the text of the record. The functions
    that are opened are counted among the pieces that the text is put together from, and among the lines of the text if
    no piece has a line feed in it. -/
theorem renderRecord_accounts (b : Boundary) (p : Paths) (record : Record) (hsignals : record.signals ≠ []) :
    (∀ text, b.renderRecord p record = .ok text ↔
      ∃ rejected accepted, b.Sorts record.signals rejected accepted ∧
        text = unlines (("// Signals of " ++ record.kind.title ++ " named " ++ record.name)
          :: rejected.map warningLine ++ b.blockLines p record accepted ++ [""])) ∧
    ∀ rejected accepted, b.Sorts record.signals rejected accepted →
      (∀ r ∈ rejected, b.Rejects r.1 r.2) ∧ (∀ a ∈ accepted, b.Accepts a.1 a.2) ∧
      (rejected.map Prod.fst).Sublist record.signals ∧ (accepted.map Prod.fst).Sublist record.signals ∧
      (rejected.map Prod.fst ++ accepted.map Prod.fst).Perm record.signals ∧
      (∀ signal ∈ record.signals, Xor (∃ reason, (signal, reason) ∈ rejected) (∃ plan, (signal, plan) ∈ accepted)) ∧
      (b.blockLines p record accepted ≠ [] ↔ accepted ≠ []) ∧
      (b.blockLines p record accepted).filter opensFunction =
        accepted.map (fun a => (b.binding record a.1 a.2).signature p) ∧
      ((∀ line ∈ b.recordLines p record rejected accepted, '\n' ∉ line.toList) →
        (((unlines (b.recordLines p record rejected accepted)).toList.splitOn '\n').map String.ofList).filter
          opensFunction = accepted.map (fun a => (b.binding record a.1 a.2).signature p)) := by
  refine ⟨fun text => renderRecord_eq_ok_iff hsignals, fun rejected accepted hsorts => ?_⟩
  exact ⟨fun r hr => hsorts.rejects_of_mem hr, fun a ha => hsorts.accepts_of_mem ha, hsorts.sublists.1,
    hsorts.sublists.2, hsorts.perm, fun signal hmem => hsorts.xor_of_mem hmem, not_congr blockLines_eq_nil_iff,
    filter_blockLines b p record accepted, filter_splitOn_recordLines⟩

theorem renderRecord_accounts_button :
    let signal (name : String) (direction : String) : Element :=
      { Element.named "signal" with
        attributes := [("name", name)]
        children := [{ Element.named "parameter" with
          attributes := [("name", "x"), ("direction", direction)]
          children := [{ Element.named "type" with attributes := [("name", "gint")] }] }] }
    let record := (Record.ofElement .objectClass
      { Element.named "class" with
        attributes := [("name", "Button")], children := [signal "moved" "out", signal "clicked" "in"] } 0).value
    let b : Boundary := ⟨{}, "ffi"⟩
    let p : Paths := ⟨"ffi", "support"⟩
    record.signals ≠ [] ∧
      ∃ (rejected : List (Callable × Rejection)) (accepted : List (Callable × Plan)),
        rejected.map (fun r => r.1.name) = ["moved"] ∧ accepted.map (fun a => a.1.name) = ["clicked"] ∧
        b.renderRecord p record = .ok (unlines ("// Signals of Class named Button" :: rejected.map warningLine
          ++ b.blockLines p record accepted ++ [""])) ∧
        (b.blockLines p record accepted).filter opensFunction =
          ["    pub fn connect_clicked<F>(&self, flags: support::ConnectFlags, handler: F) -> u64"] := by
  intro signal record b p
  have hsignals : record.signals ≠ [] := List.cons_ne_nil _ _
  obtain ⟨hrender, hgroups⟩ := renderRecord_accounts b p record hsignals
  obtain ⟨moved, clicked, hrecord, hmoved, hclicked, hreason, hplan⟩ :
      ∃ moved clicked, record.signals = [moved, clicked] ∧ moved.name = "moved" ∧ clicked.name = "clicked" ∧
        b.Rejects moved (.direction "x") ∧ b.Accepts clicked ⟨[.fundamental .int32], .void, .void⟩ :=
    ⟨_, _, rfl, rfl, rfl, Or.inl (by decide), by decide, by decide, by decide⟩
  have hsorts : b.Sorts record.signals [(moved, .direction "x")]
      [(clicked, ⟨[.fundamental .int32], .void, .void⟩)] := by
    rw [hrecord]
    exact .rejected hreason (.accepted hplan .nil)
  obtain ⟨_, _, _, _, _, _, _, hfunctions, _⟩ := hgroups _ _ hsorts
  refine ⟨hsignals, _, _, ?_, ?_, (hrender _).mpr ⟨_, _, hsorts, rfl⟩, ?_⟩
  · simp [hmoved]
  · simp [hclicked]
  · rw [hfunctions]
    change ["    pub fn " ++ ("connect_" ++ snakeCase clicked.name) ++ "<F>(&self, flags: " ++ p.support
      ++ "::ConnectFlags, handler: F) -> u64"] = _
    rw [hclicked]
    decide

end Boundary

end Introspection
