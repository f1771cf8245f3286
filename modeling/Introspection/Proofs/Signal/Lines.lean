import Introspection.Signal.Binding

set_option autoImplicit false

namespace Introspection

open Text

namespace Text

theorem unlines_cons (line : String) (lines : List String) :
    unlines (line :: lines) = line ++ "\n" ++ unlines lines := by
  simp [unlines]

theorem unlines_append (lines more : List String) : unlines (lines ++ more) = unlines lines ++ unlines more := by
  simp [unlines]

theorem unlines_intercalate (blocks : List (List String)) :
    unlines ([""].intercalate blocks) = "\n".intercalate (blocks.map unlines) := by
  induction blocks with
  | nil => rfl
  | cons block blocks ih =>
    by_cases hblocks : blocks = []
    · simp [hblocks]
    · rw [List.intercalate_cons_of_ne_nil hblocks, List.map_cons,
        String.intercalate_cons_of_ne_nil (by simpa using hblocks), unlines_append, unlines_append, ih]
      rfl

theorem splitOn_unlines {lines : List String} (h : ∀ line ∈ lines, '\n' ∉ line.toList) :
    ((unlines lines).toList.splitOn '\n').map String.ofList = lines ++ [""] := by
  have hfeed : "\n".toList = ['\n'] := by decide
  induction lines with
  | nil => rfl
  | cons line lines ih =>
    obtain ⟨hline, hlines⟩ := List.forall_mem_cons.mp h
    have hletters : ∀ c ∈ line.toList, (c == '\n') = false := by
      intro c hc
      rw [beq_eq_false_iff_ne]
      rintro rfl
      exact hline hc
    rw [unlines_cons, String.toList_append, String.toList_append, hfeed, List.append_assoc, List.singleton_append,
      List.splitOn_eq_splitOnP, List.splitOnP_append_cons_of_forall_mem hletters _ (by decide), ← List.splitOn_eq_splitOnP,
      List.map_cons, ih hlines, String.ofList_toList, List.cons_append]

end Text

def opensFunction (line : String) : Bool := beginsWith "    pub fn " line

-- Four blanks stand before every other line of a binding too, so it is the fifth letter that tells them apart.
theorem opensFunction_eq_false {line : String} (h : line.toList[4]? ≠ some 'p') : opensFunction line = false := by
  rw [Bool.eq_false_iff]
  intro hopens
  obtain ⟨rest, hrest⟩ := List.isPrefixOf_iff_prefix.mp hopens
  apply h
  rw [← hrest, List.getElem?_append_left (by decide)]
  decide

theorem opensFunction_ofList {cs : List Char} (h : cs[4]? ≠ some 'p') : opensFunction (String.ofList cs) = false :=
  opensFunction_eq_false (by rwa [String.toList_ofList])

theorem opensFunction_ofList_append {cs : List Char} {c : Char} (h : cs[4]? = some c) (hc : c ≠ 'p') (rest : String) :
    opensFunction (String.ofList cs ++ rest) = false := by
  apply opensFunction_eq_false
  obtain ⟨hlt, _⟩ := List.getElem?_eq_some_iff.mp h
  rw [String.toList_append, String.toList_ofList, List.getElem?_append_left hlt, h]
  simpa using hc

theorem filter_opensFunction_blank : [""].filter opensFunction = [] := by decide

theorem filter_opensFunction_intercalate (blocks : List (List String)) :
    ([""].intercalate blocks).filter opensFunction = blocks.flatMap fun block => block.filter opensFunction := by
  induction blocks with
  | nil => rfl
  | cons block blocks ih =>
    by_cases hblocks : blocks = []
    · simp [hblocks]
    · rw [List.intercalate_cons_of_ne_nil hblocks, List.filter_append, List.filter_append, filter_opensFunction_blank, ih,
        List.append_nil, List.flatMap_cons]

namespace Binding

def signature (b : Binding) (p : Paths) : String :=
  "    pub fn " ++ b.function ++ "<F>(&self, flags: " ++ p.support ++ "::ConnectFlags, handler: F) -> u64"

theorem opensFunction_signature (b : Binding) (p : Paths) : opensFunction (b.signature p) = true := by
  unfold opensFunction signature beginsWith
  rw [List.isPrefixOf_iff_prefix]
  simp only [String.append_assoc, String.toList_append]
  exact List.prefix_append _ _

theorem opensFunction_commentLine (line : String) : opensFunction (commentLine line) = false := by
  unfold commentLine
  split
  · exact opensFunction_ofList (by decide)
  · exact opensFunction_ofList_append rfl (by decide) line

theorem filter_noteLines (b : Binding) : b.noteLines.filter opensFunction = [] := by
  unfold noteLines
  split
  · simp only [List.filter_eq_nil_iff, List.forall_mem_singleton, String.append_assoc, Bool.not_eq_true]
    exact opensFunction_ofList_append rfl (by decide) _
  · rfl

theorem filter_signatureLines (b : Binding) (p : Paths) :
    (b.signatureLines p).filter opensFunction = [b.signature p] := by
  change (b.signature p :: _).filter opensFunction = _
  rw [List.filter_cons_of_pos (opensFunction_signature b p), List.cons_inj_right]
  simp only [List.filter_eq_nil_iff, List.forall_mem_cons, String.append_assoc, Bool.not_eq_true]
  exact ⟨opensFunction_ofList (by decide), opensFunction_ofList_append rfl (by decide) _,
    opensFunction_ofList (by decide), opensFunction_ofList_append rfl (by decide) _,
    opensFunction_ofList (by decide), by simp⟩

theorem filter_resultLines (b : Binding) (p : Paths) : (b.resultLines p).filter opensFunction = [] := by
  unfold resultLines
  split <;> simp only [List.filter_eq_nil_iff, List.forall_mem_cons, String.append_assoc, Bool.not_eq_true]
  · exact ⟨opensFunction_ofList_append rfl (by decide) _, by simp⟩
  · exact ⟨opensFunction_ofList_append rfl (by decide) _, opensFunction_ofList_append rfl (by decide) _, by simp⟩
  · exact ⟨opensFunction_ofList_append rfl (by decide) _, opensFunction_ofList (by decide),
      opensFunction_ofList (by decide), opensFunction_ofList_append rfl (by decide) _,
      opensFunction_ofList (by decide), opensFunction_ofList (by decide), opensFunction_ofList (by decide), by simp⟩

theorem filter_trampolineLines (b : Binding) (p : Paths) : (b.trampolineLines p).filter opensFunction = [] := by
  unfold trampolineLines
  simp only [List.filter_append, filter_resultLines, List.append_eq_nil_iff, List.filter_eq_nil_iff,
    List.forall_mem_cons, List.forall_mem_map, String.append_assoc, Bool.not_eq_true]
  refine ⟨⟨⟨⟨opensFunction_ofList (by decide), fun parameter _ => ?_⟩, ?_, ?_, by simp⟩, trivial⟩, ?_, ?_, by simp⟩
  · exact opensFunction_ofList_append rfl (by decide) _
  · exact opensFunction_ofList_append rfl (by decide) _
  · exact opensFunction_ofList (by decide)
  · exact opensFunction_ofList (by decide)
  · exact opensFunction_ofList (by decide)

theorem filter_releaseLines (p : Paths) : (releaseLines p).filter opensFunction = [] := by
  simp only [releaseLines, List.filter_eq_nil_iff, List.forall_mem_cons, String.append_assoc, Bool.not_eq_true]
  exact ⟨opensFunction_ofList_append rfl (by decide) _, opensFunction_ofList (by decide),
    opensFunction_ofList (by decide), opensFunction_ofList (by decide), by simp⟩

theorem filter_connectLines (b : Binding) (p : Paths) : (b.connectLines p).filter opensFunction = [] := by
  simp only [connectLines, List.filter_eq_nil_iff, List.forall_mem_cons, String.append_assoc, Bool.not_eq_true]
  exact ⟨opensFunction_ofList_append rfl (by decide) _, opensFunction_ofList_append rfl (by decide) _,
    opensFunction_ofList (by decide), opensFunction_ofList_append rfl (by decide) _,
    opensFunction_ofList (by decide), opensFunction_ofList_append rfl (by decide) _,
    opensFunction_ofList_append rfl (by decide) _, opensFunction_ofList (by decide),
    opensFunction_ofList (by decide), opensFunction_ofList (by decide), opensFunction_ofList (by decide),
    opensFunction_ofList (by decide), opensFunction_ofList (by decide), by simp⟩

theorem filter_lines (b : Binding) (p : Paths) : (b.lines p).filter opensFunction = [b.signature p] := by
  have hdoc : (b.doc.map commentLine).filter opensFunction = [] := by
    simp [List.filter_eq_nil_iff, opensFunction_commentLine]
  simp only [lines, List.filter_append, hdoc, filter_noteLines, filter_signatureLines, filter_trampolineLines,
    filter_releaseLines, filter_connectLines, List.nil_append, List.append_nil]

end Binding

end Introspection
