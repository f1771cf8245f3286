import Introspection.Bridge
import Introspection.Proofs.Text.Pieces

set_option autoImplicit false

namespace Introspection

/-- The word stands in the text with nothing but an end of the text, a blank or a star on either side. -/
def OccursAsToken (word text : List Char) : Prop :=
  ∃ before after, text = before ++ word ++ after ∧ (∀ c ∈ before.getLast?, endsToken c = true) ∧
    ∀ c ∈ after.head?, endsToken c = true

theorem OccursAsToken.isInfix {word text : List Char} (h : OccursAsToken word text) : word <:+: text := by
  obtain ⟨before, after, htext, _⟩ := h
  exact ⟨before, after, htext.symm⟩

theorem OccursAsToken.after_delimiter {word text : List Char} {c : Char} (hc : endsToken c = true)
    (h : OccursAsToken word text) (first : List Char) : OccursAsToken word (first ++ c :: text) := by
  obtain ⟨before, after, rfl, hbefore, hafter⟩ := h
  refine ⟨first ++ c :: before, after, by simp, ?_, hafter⟩
  intro d hd
  cases before with
  | nil =>
    obtain rfl : c = d := by simpa using hd
    exact hc
  | cons b before => exact hbefore d (by simpa using hd)

theorem occursAsToken_of_mem {word text : List Char} (h : word ∈ text.splitOnP endsToken) :
    OccursAsToken word text := by
  cases hcut : Text.cutAt endsToken text with
  | none =>
    rw [List.splitOnP_eq_singleton (Text.cutAt_eq_none_iff.mp hcut), List.mem_singleton] at h
    exact ⟨[], [], by simp [h], by simp, by simp⟩
  | some parts =>
    obtain ⟨first, later⟩ := parts
    obtain ⟨c, hc, rfl, hfirst⟩ := Text.cutAt_append hcut
    rw [List.splitOnP_append_cons_of_forall_mem hfirst c hc] at h
    obtain rfl | hlater := List.mem_cons.mp h
    · exact ⟨[], c :: later, by simp, by simp, by simpa using hc⟩
    · exact (occursAsToken_of_mem hlater).after_delimiter hc first
termination_by text.length

theorem mem_of_occursAsToken {word text : List Char} (hwhole : word.any endsToken = false)
    (h : OccursAsToken word text) : word ∈ text.splitOnP endsToken := by
  have hword : ∀ c ∈ word, endsToken c = false := fun c hc => Bool.eq_false_iff.mpr (List.any_eq_false.mp hwhole c hc)
  obtain ⟨before, after, rfl, hbefore, hafter⟩ := h
  have hstarts : word ∈ (word ++ after).splitOnP endsToken := by
    cases after with
    | nil => simp [List.splitOnP_eq_singleton hword]
    | cons c after =>
      rw [List.splitOnP_append_cons_of_forall_mem hword c (hafter c rfl)]
      exact List.mem_cons_self
  obtain rfl | ⟨first, c, rfl⟩ := List.eq_nil_or_concat before
  · exact hstarts
  · have hc : endsToken c = true := hbefore c (by simp)
    rw [List.concat_eq_append, List.append_assoc, List.append_assoc, List.singleton_append,
      List.splitOnP_append_cons first _ hc]
    exact List.mem_append_right _ hstarts

def IsConstSpelling (spelling : String) : Prop := OccursAsToken "const".toList spelling.toList

theorem TypeRef.of_isConst_iff {name spelling : String} :
    (TypeRef.of name spelling).isConst = true ↔ IsConstSpelling spelling := by
  change (spellingTokens spelling).contains "const".toList = true ↔ _
  rw [List.contains_iff_mem]
  exact ⟨occursAsToken_of_mem, mem_of_occursAsToken rfl⟩

instance (spelling : String) : Decidable (IsConstSpelling spelling) :=
  decidable_of_iff _ (@TypeRef.of_isConst_iff "" spelling)

namespace Boundary

-- The keyword cannot be a token without its letters being there, so the search for the letters decides alone.
theorem isConstPointer_of_iff {name spelling : String} :
    isConstPointer (TypeRef.of name spelling) = true ↔ "const".toList <:+: spelling.toList := by
  unfold isConstPointer
  rw [Bool.or_eq_true, TypeRef.of_isConst_iff]
  change _ ∨ Text.contains "const" spelling = true ↔ _
  rw [Text.contains_iff_infix]
  exact or_iff_right_of_imp OccursAsToken.isInfix

theorem join_pointers_eq_iff {level : Nat} {path : String} :
    String.join (List.replicate level "*const ") ++ path = String.join (List.replicate level "*mut ") ++ path ↔
      level = 0 := by
  constructor
  · intro h
    cases level with
    | zero => rfl
    | succ level =>
      have hchars := congrArg (fun s => s.toList[1]?) h
      simp [List.replicate_succ, String.join_cons] at hchars
  · rintro rfl
    rfl

/-- The pointers of a type that is written as it is spelled are constant exactly if the letters of the keyword occur in
    the spelling. So they follow the keyword exactly if there are no pointers, the keyword is a token, or its letters
    occur nowhere, not even within a word. -/
theorem verbatimType_of_iff (b : Boundary) (name spelling : String) :
    let t := TypeRef.of name spelling
    let letters := "const".toList <:+: spelling.toList
    let written (pointer : String) := String.join (List.replicate t.level pointer) ++
      (b.ffi ++ "::" ++ if t.baseSpelling = "" then t.base else t.baseSpelling)
    (letters → b.verbatimType t = written "*const ") ∧ (¬ letters → b.verbatimType t = written "*mut ") ∧
    (b.verbatimType t = written (if IsConstSpelling spelling then "*const " else "*mut ") ↔
      t.level = 0 ∨ IsConstSpelling spelling ∨ ¬ letters) := by
  intro t letters written
  have hwritten : b.verbatimType t = written (if isConstPointer t then "*const " else "*mut ") := by
    unfold verbatimType
    simp only [written, TypeRef.baseOrName, String.append_assoc]
  have hpointer : isConstPointer t = true ↔ letters := isConstPointer_of_iff
  have hconst : letters → b.verbatimType t = written "*const " := by
    intro hletters
    rw [hwritten, if_pos (hpointer.mpr hletters)]
  have hmut : ¬ letters → b.verbatimType t = written "*mut " := by
    intro hnone
    rw [hwritten, if_neg (mt hpointer.mp hnone)]
  refine ⟨hconst, hmut, ?_⟩
  by_cases hkeyword : IsConstSpelling spelling
  · rw [if_pos hkeyword]
    exact iff_of_true (hconst hkeyword.isInfix) (.inr (.inl hkeyword))
  · rw [if_neg hkeyword]
    by_cases hletters : letters
    · rw [hconst hletters]
      exact join_pointers_eq_iff.trans (or_iff_left fun h => h.elim hkeyword fun hnone => hnone hletters).symm
    · exact iff_of_true (hmut hletters) (.inr (.inr hletters))

/-- A pointer to `constant_t` is constant although the spelling does not have the keyword. -/
theorem verbatimType_of_constant :
    let b : Boundary := ⟨{}, "ffi"⟩
    let t := TypeRef.of "Pool" "constant_t*"
    ¬ IsConstSpelling "constant_t*" ∧ t.isConst = false ∧ t.level = 1 ∧ t.baseSpelling = "constant_t" ∧
      b.verbatimType t = "*const ffi::constant_t" ∧ b.verbatimType t ≠ "*mut ffi::constant_t" := by
  decide

end Boundary

end Introspection
