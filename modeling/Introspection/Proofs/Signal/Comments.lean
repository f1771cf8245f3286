import Introspection.Proofs.Generation
import Introspection.Proofs.Signal.Planning
import Introspection.Proofs.Signal.Verdict

set_option autoImplicit false

namespace Introspection

open Markup Text

namespace Text

def isComment (line : List Char) : Bool := "//".toList.isPrefixOf line

/-- Every line of the text is empty or a comment. -/
def OnlyComments (text : String) : Prop := ∀ line ∈ text.toList.splitOn '\n', line = [] ∨ isComment line = true

instance (text : String) : Decidable (OnlyComments text) := inferInstanceAs (Decidable (∀ _ ∈ _, _))

def opensComment : List Char → Bool
  | [] => true
  | c :: cs => c == '\n' || isComment (c :: cs)

/-- Whether each line feed is followed by another one or by a comment; `atEnd` says it of one that nothing follows. -/
def resumesComment (atEnd : Bool) : List Char → Bool
  | [] => true
  | c :: cs => (c != '\n' || (if cs = [] then atEnd else opensComment cs)) && resumesComment atEnd cs

theorem isComment_cons_cons (c d : Char) (cs : List Char) : isComment (c :: d :: cs) = (c == '/' && d == '/') := by
  change ('/' == c && ('/' == d && true)) = _
  rw [Bool.and_true, Bool.beq_comm, Bool.beq_comm (a := '/') (b := d)]

theorem isComment_singleton (c : Char) : isComment [c] = false := by
  change ('/' == c && false) = false
  rw [Bool.and_false]

theorem isComment_cons_takeWhile (c : Char) (cs : List Char) :
    isComment (c :: cs.takeWhile (· != '\n')) = isComment (c :: cs) := by
  cases cs with
  | nil => rfl
  | cons d cs =>
    by_cases hd : d = '\n'
    · subst hd
      rw [List.takeWhile_cons_of_neg (by decide), isComment_singleton, isComment_cons_cons]
      simp
    · rw [List.takeWhile_cons_of_pos (by simpa using hd), isComment_cons_cons, isComment_cons_cons]

theorem splitOn_lines (cs : List Char) :
    ∃ lines, cs.splitOn '\n' = cs.takeWhile (· != '\n') :: lines ∧
      ((∀ line ∈ lines, line = [] ∨ isComment line = true) ↔ resumesComment true cs = true) ∧
      ((cs.takeWhile (· != '\n') = [] ∨ isComment (cs.takeWhile (· != '\n')) = true) ↔ opensComment cs = true) := by
  induction cs with
  | nil => exact ⟨[], rfl, by simp [resumesComment], by simp [opensComment]⟩
  | cons c cs ih =>
    obtain ⟨lines, hlines, hrest, hfirst⟩ := ih
    rw [List.splitOn_eq_splitOnP] at hlines
    by_cases hc : c = '\n'
    · subst hc
      refine ⟨cs.splitOn '\n', ?_, ?_, by simp [opensComment]⟩
      · rw [List.splitOn_eq_splitOnP, List.splitOnP_cons_eq_if_modifyHead]
        simp [List.splitOn_eq_splitOnP]
      · rw [List.splitOn_eq_splitOnP, hlines, List.forall_mem_cons, hrest, hfirst]
        cases cs <;> simp [resumesComment, opensComment]
    · refine ⟨lines, ?_, ?_, ?_⟩
      · rw [List.splitOn_eq_splitOnP, List.splitOnP_cons_eq_if_modifyHead, hlines]
        simp [hc]
      · rw [hrest]
        simp [resumesComment, hc]
      · rw [List.takeWhile_cons_of_pos (by simpa using hc), isComment_cons_takeWhile]
        simp [opensComment, hc]

theorem onlyComments_iff (text : String) :
    OnlyComments text ↔ opensComment text.toList = true ∧ resumesComment true text.toList = true := by
  obtain ⟨lines, hlines, hrest, hfirst⟩ := splitOn_lines text.toList
  unfold OnlyComments
  rw [hlines, List.forall_mem_cons, hrest, hfirst]

theorem resumesComment_append_left {cs : List Char} (h : '\n' ∉ cs) (atEnd : Bool) (ds : List Char) :
    resumesComment atEnd (cs ++ ds) = resumesComment atEnd ds := by
  induction cs with
  | nil => rfl
  | cons c cs ih =>
    rw [List.mem_cons, not_or] at h
    simp [resumesComment, Ne.symm h.1, ih h.2]

theorem resumesComment_of_not_mem {cs : List Char} (h : '\n' ∉ cs) (atEnd : Bool) : resumesComment atEnd cs = true := by
  have happend := resumesComment_append_left h atEnd []
  rwa [List.append_nil] at happend

theorem opensComment_append_cons {d : Char} (hd : d ≠ '/') (cs ds : List Char) :
    opensComment (cs ++ d :: ds) = if cs = [] then d == '\n' else opensComment cs := by
  have hslash : isComment (d :: ds) = false := by
    cases ds with
    | nil => exact isComment_singleton d
    | cons e ds => simp [isComment_cons_cons, hd]
  match cs with
  | [] => simp [opensComment, hslash]
  | [c] => simp [opensComment, isComment_singleton, isComment_cons_cons, hd]
  | c :: e :: cs => simp [opensComment, isComment_cons_cons]

/-- A character other than a slash behind a text settles only what follows a line feed at the text's end. -/
theorem resumesComment_append_cons {d : Char} (hd : d ≠ '/') (atEnd : Bool) (cs ds : List Char) :
    resumesComment atEnd (cs ++ d :: ds) = (resumesComment (d == '\n') cs && resumesComment atEnd (d :: ds)) := by
  induction cs with
  | nil => rfl
  | cons c cs ih =>
    rw [List.cons_append, resumesComment, resumesComment, ih, opensComment_append_cons hd]
    simp [Bool.and_assoc]

theorem resumesComment_after {before : String} (h : '\n' ∉ before.toList) (atEnd : Bool) (text : String) :
    resumesComment atEnd (before ++ text).toList = resumesComment atEnd text.toList := by
  rw [String.toList_append, resumesComment_append_left h]

theorem resumesComment_before {after : String} (h : after.toList.head? = some ' ') (atEnd : Bool) (text : String) :
    resumesComment atEnd (text ++ after).toList =
      (resumesComment false text.toList && resumesComment atEnd after.toList) := by
  obtain ⟨rest, hrest⟩ := List.head?_eq_some_iff.mp h
  rw [String.toList_append, hrest, resumesComment_append_cons (by decide)]
  rfl

theorem resumesComment_between {after : String} (h : after.toList.head? = some ' ') (hline : '\n' ∉ after.toList)
    (atEnd : Bool) (text : String) : resumesComment atEnd (text ++ after).toList = resumesComment false text.toList := by
  rw [resumesComment_before h, resumesComment_of_not_mem hline, Bool.and_true]

theorem opensComment_append {cs : List Char} (h : isComment cs = true) (ds : List Char) :
    opensComment (cs ++ ds) = true := by
  match cs with
  | [] => cases h
  | [c] => simp [isComment_singleton] at h
  | c :: d :: cs =>
    rw [isComment_cons_cons] at h
    simp [opensComment, isComment_cons_cons, h]

theorem onlyComments_after {before : String} (hcomment : isComment before.toList = true)
    (hline : '\n' ∉ before.toList) (text : String) :
    OnlyComments (before ++ text) ↔ resumesComment true text.toList = true := by
  have hopens : opensComment (before ++ text).toList = true := by
    rw [String.toList_append, opensComment_append hcomment]
  rw [onlyComments_iff, hopens, resumesComment_after hline]
  exact and_iff_right rfl

theorem onlyComments_unlines (lines : List String) :
    OnlyComments (unlines lines) ↔ ∀ line ∈ lines, OnlyComments line := by
  induction lines with
  | nil => exact iff_of_true (by decide) (by simp)
  | cons line lines ih =>
    have hchars : (unlines (line :: lines)).toList = line.toList ++ '\n' :: (unlines lines).toList := by
      rw [unlines_cons, String.toList_append, String.toList_append, List.append_assoc]
      rfl
    rw [List.forall_mem_cons, ← ih]
    unfold OnlyComments
    rw [hchars, List.splitOn_eq_splitOnP, List.splitOnP_append_cons _ _ (by decide), List.forall_mem_append]
    rfl

end Text

namespace Rejection

def place? : Rejection → Option String
  | ownership name | direction name | void name | typeAlias name | nullable name | array name => some name
  | recordReturn | aliasReturn | borrowedStringReturn | callbackReturn => none

theorem resumesComment_message (r : Rejection) :
    resumesComment true r.message.toList = true ↔
      ∀ place, r.place? = some place → resumesComment false place.toList = true := by
  cases r with
  | ownership name | direction name | void name =>
    rw [message, String.append_assoc, resumesComment_after (by decide +kernel),
      resumesComment_between rfl (by decide +kernel)]
    simp [place?]
  | typeAlias name | nullable name | array name =>
    rw [message, resumesComment_between rfl (by decide +kernel)]
    simp [place?]
  | recordReturn | aliasReturn | borrowedStringReturn | callbackReturn =>
    rw [message, resumesComment_of_not_mem (by decide +kernel)]
    simp [place?]

end Rejection

theorem onlyComments_emptyTitle (record : Record) :
    OnlyComments ("// no " ++ record.name ++ " signals") ↔ resumesComment false record.name.toList = true := by
  rw [String.append_assoc, onlyComments_after (by decide) (by decide), resumesComment_between rfl (by decide)]

theorem onlyComments_title (record : Record) :
    OnlyComments ("// Signals of " ++ record.kind.title ++ " named " ++ record.name) ↔
      resumesComment true record.name.toList = true := by
  have hkind : '\n' ∉ record.kind.title.toList := by cases record.kind <;> decide
  rw [String.append_assoc, String.append_assoc, onlyComments_after (by decide) (by decide), resumesComment_after hkind,
    resumesComment_after (by decide)]

theorem onlyComments_warningLine (rejected : Callable × Rejection) :
    OnlyComments (Boundary.warningLine rejected) ↔
      resumesComment false rejected.1.name.toList = true ∧
        ∀ place, rejected.2.place? = some place → resumesComment false place.toList = true := by
  have hblank : (" is ignored because " ++ rejected.2.message).toList.head? = some ' ' := by simp
  have hname := resumesComment_before hblank true rejected.1.name
  have hmessage := resumesComment_after (by decide : '\n' ∉ " is ignored because ".toList) true rejected.2.message
  unfold Boundary.warningLine
  rw [String.append_assoc, String.append_assoc, onlyComments_after (by decide) (by decide), hname, hmessage,
    Bool.and_eq_true, rejected.2.resumesComment_message]

namespace Boundary

variable {b : Boundary}

theorem sorts_of_all_rejected {signals : List Callable} (h : ∀ signal ∈ signals, ∃ reason, b.Rejects signal reason) :
    ∃ rejected, b.Sorts signals rejected [] := by
  induction signals with
  | nil => exact ⟨[], .nil⟩
  | cons signal signals ih =>
    obtain ⟨⟨reason, hreason⟩, hrest⟩ := List.forall_mem_cons.mp h
    obtain ⟨rejected, hsorts⟩ := ih hrest
    exact ⟨(signal, reason) :: rejected, .rejected hreason hsorts⟩

theorem Rejects.unique {signal : Callable} {reason other : Rejection} (h : b.Rejects signal reason)
    (hother : b.Rejects signal other) : reason = other := by
  have hfirst : b.prepare default signal = .ok (.error reason) := prepare_eq_rejected_iff.mpr h
  have hsecond : b.prepare default signal = .ok (.error other) := prepare_eq_rejected_iff.mpr hother
  exact Except.error.inj (Except.ok.inj (hfirst.symm.trans hsecond))

theorem planReturn_error_place? {returns : Argument} {reason : Rejection} (h : b.planReturn returns = .error reason) :
    reason.place? = none := by
  unfold planReturn at h
  split at h <;> grind [Rejection.place?]

theorem Rejects.place_mem {signal : Callable} {reason : Rejection} {place : String} (h : b.Rejects signal reason)
    (hplace : reason.place? = some place) : place ∈ returnPosition :: signal.arguments.map Argument.name := by
  obtain hrule | ⟨hpasses, _, hplan⟩ := h
  · obtain ⟨⟨rule, position, value⟩, ⟨⟨hvalue, _⟩, _⟩, rfl⟩ := Registry.rejection?_eq_some_iff.mp hrule
    obtain rfl : position.label value = place := by
      cases rule <;> simp_all [Violation.rejection, Rule.rejection, Rejection.place?]
    cases position with
    | returns => exact List.mem_cons_self
    | argument index => exact List.mem_cons_of_mem _ (List.mem_map_of_mem (List.mem_of_getElem? hvalue))
  · rw [plan_eq_error_iff hpasses] at hplan
    rw [planReturn_error_place? hplan] at hplace
    cases hplace

theorem Sorts.forall_rejected_iff {signals : List Callable} {rejected : List (Callable × Rejection)}
    (h : b.Sorts signals rejected []) (P : Callable → Rejection → Prop) :
    (∀ r ∈ rejected, P r.1 r.2) ↔ ∀ signal ∈ signals, ∀ reason, b.Rejects signal reason → P signal reason := by
  constructor
  · intro hall signal hsignal reason hreason
    obtain ⟨⟨other, hother⟩, _⟩ | ⟨⟨_, hnone⟩, _⟩ := h.xor_of_mem hsignal
    · rw [hreason.unique (h.rejects_of_mem hother)]
      exact hall _ hother
    · cases hnone
  · rintro hall ⟨signal, reason⟩ hmem
    obtain ⟨hsublist, _⟩ := h.sublists
    exact hall signal (hsublist.subset (List.mem_map_of_mem hmem)) reason (h.rejects_of_mem hmem)

theorem renderRecord_of_signals_nil (b : Boundary) (p : Paths) {record : Record} (h : record.signals = []) :
    b.renderRecord p record = .ok (unlines ["// no " ++ record.name ++ " signals", ""]) := by
  have hend : " signals\n\n" = " signals" ++ "\n" ++ "\n" := by decide
  have hempty : unlines [""] = "\n" := by decide
  have hrender : b.renderRecord p record = .ok ("// no " ++ record.name ++ " signals\n\n") := by
    unfold renderRecord
    rw [h]
    rfl
  rw [hrender, unlines_cons, hempty, hend]
  simp only [String.append_assoc]

theorem renderRecord_of_all_rejected (b : Boundary) (p : Paths) {record : Record} (hsignals : record.signals ≠ [])
    {rejected : List (Callable × Rejection)} (h : b.Sorts record.signals rejected []) :
    b.renderRecord p record = .ok (unlines
      (("// Signals of " ++ record.kind.title ++ " named " ++ record.name) :: rejected.map warningLine ++ [""])) := by
  rw [renderRecord_eq_ok_iff hsignals]
  refine ⟨rejected, [], h, ?_⟩
  rw [recordLines, blockLines, if_pos rfl, List.append_nil]

theorem renderRecord_onlyComments_iff (p : Paths) {record : Record}
    (h : ∀ signal ∈ record.signals, ∃ reason, b.Rejects signal reason) :
    ∃ text, b.renderRecord p record = .ok text ∧
      (OnlyComments text ↔
        resumesComment (!record.signals.isEmpty) record.name.toList = true ∧
        ∀ signal ∈ record.signals, ∀ reason, b.Rejects signal reason →
          resumesComment false signal.name.toList = true ∧
            ∀ place, reason.place? = some place → resumesComment false place.toList = true) := by
  have hempty : OnlyComments "" := by decide
  by_cases hsignals : record.signals = []
  · refine ⟨_, renderRecord_of_signals_nil b p hsignals, ?_⟩
    rw [onlyComments_unlines, List.forall_mem_cons, List.forall_mem_singleton, onlyComments_emptyTitle, hsignals]
    simp [hempty]
  · obtain ⟨rejected, hsorts⟩ := sorts_of_all_rejected h
    have hlast : (!record.signals.isEmpty) = true := by simpa using hsignals
    refine ⟨_, renderRecord_of_all_rejected b p hsignals hsorts, ?_⟩
    rw [onlyComments_unlines, List.forall_mem_append, List.forall_mem_cons, List.forall_mem_singleton,
      List.forall_mem_map, onlyComments_title, and_iff_left hempty, hlast]
    simp only [onlyComments_warningLine]
    rw [hsorts.forall_rejected_iff fun signal reason => resumesComment false signal.name.toList = true ∧
      ∀ place, reason.place? = some place → resumesComment false place.toList = true]

end Boundary

namespace Repository

/-- The text of a record whose signals are all rejected has only comments in it exactly if in each name that is written
    a line feed is followed by another one or by a comment. The name of a record with signals is the end of its line, so
    there a line feed may also come last. Without line feeds in any name there are only comments. -/
theorem recordText_onlyComments_iff (r : Repository) (c : Config) (record : Record)
    (h : ∀ signal ∈ record.signals, ∃ reason, (r.boundary c).Rejects signal reason) :
    ∃ text, r.recordText c record = .ok text ∧
      (OnlyComments text ↔
        resumesComment (!record.signals.isEmpty) record.name.toList = true ∧
        ∀ signal ∈ record.signals, ∀ reason, (r.boundary c).Rejects signal reason →
          resumesComment false signal.name.toList = true ∧
            ∀ place, reason.place? = some place → resumesComment false place.toList = true) ∧
      ('\n' ∉ record.name.toList →
        (∀ signal ∈ record.signals, '\n' ∉ signal.name.toList ∧ ∀ a ∈ signal.arguments, '\n' ∉ a.name.toList) →
          OnlyComments text) := by
  obtain ⟨text, htext, hiff⟩ := Boundary.renderRecord_onlyComments_iff c.paths h
  refine ⟨text, recordText_eq_ok_iff.mpr htext, hiff, ?_⟩
  intro hname hsignals
  refine hiff.mpr ⟨resumesComment_of_not_mem hname _, ?_⟩
  intro signal hsignal reason hreason
  obtain ⟨hown, harguments⟩ := hsignals signal hsignal
  refine ⟨resumesComment_of_not_mem hown _, ?_⟩
  intro place hplace
  obtain rfl | hmem := List.mem_cons.mp (hreason.place_mem hplace)
  · decide
  · obtain ⟨a, ha, rfl⟩ := List.mem_map.mp hmem
    exact resumesComment_of_not_mem (harguments a ha) _

theorem recordText_onlyComments_resumed :
    let signal (name : String) : Element :=
      { Element.named "signal" with
        attributes := [("name", name)]
        children := [{ Element.named "parameter" with attributes := [("name", "x\n// y"), ("direction", "out")] }] }
    let record := (Record.ofElement .objectClass
      { Element.named "class" with
        attributes := [("name", "Widget\n")], children := [signal "moved", signal "re\n\n//sized"] } 0).value
    let r := ofTexts []
    (∀ signal ∈ record.signals, r.registry.rejection? signal = some (.direction "x\n// y")) ∧
      ∃ text, r.recordText {} record = .ok text ∧ OnlyComments text := by
  intro signal record r
  have hrejected : ∀ signal ∈ record.signals, r.registry.rejection? signal = some (.direction "x\n// y") := by
    decide +kernel
  obtain ⟨text, htext, hiff, _⟩ := recordText_onlyComments_iff r {} record fun s hs => ⟨_, .inl (hrejected s hs)⟩
  refine ⟨hrejected, text, htext, hiff.mpr ⟨by decide +kernel, ?_⟩⟩
  intro s hs reason hreason
  obtain rfl := hreason.unique (.inl (hrejected s hs))
  have hnames : ∀ s ∈ record.signals, resumesComment false s.name.toList = true := by decide +kernel
  refine ⟨hnames s hs, ?_⟩
  rintro _ ⟨⟩
  decide

/-- A line feed in the name of an argument ends the warning about its signal halfway. -/
theorem recordText_line_feed :
    let r := ofTexts ["<repository><namespace name='Test'><class name='Widget'><signal name='moved'>" ++
      "<parameter name='x&#10;y' direction='out'/></signal></class></namespace></repository>"]
    ∃ record ∈ r.registry.records,
      (∀ signal ∈ record.signals, r.registry.rejection? signal = some (.direction "x\ny")) ∧
      let text := unlines ["// Signals of Class named Widget",
        "// Warning: signal moved is ignored because argument x",
        "y has out or inout direction, which is not allowed", ""]
      r.recordText {} record = .ok text ∧ ¬ OnlyComments text := by
  decide +kernel

end Repository

end Introspection
