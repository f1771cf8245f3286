import Introspection.Proofs.Text.Pieces
import Introspection.TypeRef
import Mathlib.Logic.Function.Iterate

set_option autoImplicit false

namespace Introspection.TypeRef

open Text

/-- The second is written like the first, with `n` stars more. -/
structure Deepens (n : Nat) (t u : TypeRef) : Prop where
  name : u.name = t.name
  isConst : u.isConst = t.isConst
  baseSpelling : u.baseSpelling = t.baseSpelling
  level : u.level = t.level + n

namespace Deepens

variable {m n : Nat} {t u v : TypeRef}

theorem refl (t : TypeRef) : Deepens 0 t t := ⟨rfl, rfl, rfl, rfl⟩

theorem trans (h : Deepens m t u) (h' : Deepens n u v) : Deepens (m + n) t v where
  name := h'.name.trans h.name
  isConst := h'.isConst.trans h.isConst
  baseSpelling := h'.baseSpelling.trans h.baseSpelling
  level := by rw [h'.level, h.level, Nat.add_assoc]

theorem base (h : Deepens n t u) : u.base = t.base := congrArg baseName h.name

theorem fullSpelling (h : Deepens n t u) :
    u.fullSpelling = t.fullSpelling ++ String.ofList (List.replicate n '*') := by
  unfold TypeRef.fullSpelling baseOrName
  rw [h.isConst, h.base, h.baseSpelling, h.level, List.replicate_add, String.ofList_append]
  exact String.append_assoc.symm

theorem isDirectPointerTo_iff (h : Deepens n t u) : u.isDirectPointerTo t = true ↔ n = 1 := by
  simp [isDirectPointerTo, h.base, h.level]

end Deepens

theorem endsToken_star : endsToken '*' = true := by decide

def words (t : TypeRef) : List (List Char) := (spellingTokens t.spelling).filter isBaseToken

theorem filter_replicate_nil (n : Nat) : (List.replicate n []).filter isBaseToken = [] :=
  List.filter_replicate_of_neg (by decide)

def written (words : List (List Char)) (stars : Nat) : String :=
  String.ofList ([' '].intercalate words ++ List.replicate stars '*')

section Written

variable {ws : List (List Char)} (hws : ∀ w ∈ ws, ∀ c ∈ w, endsToken c = false)
include hws

theorem spellingTokens_written (hne : ws ≠ []) (stars : Nat) :
    spellingTokens (written ws stars) = ws ++ List.replicate stars [] := by
  have hstars : ∀ c ∈ List.replicate stars '*', endsToken c = true := by
    intro c hc
    rw [List.eq_of_mem_replicate hc]
    exact endsToken_star
  unfold spellingTokens written
  rw [String.toList_ofList, splitOnP_append_delimiters _ hstars, splitOnP_intercalate (by decide) hne hws,
    List.length_replicate]

theorem count_written (stars : Nat) : (written ws stars).toList.count '*' = stars := by
  have hstar : ∀ c ∈ [' '].intercalate ws, c ≠ '*' := by
    refine forall_mem_intercalate (by decide) fun w hw c hc => ?_
    rintro rfl
    exact absurd (hws w hw '*' hc) (by decide)
  have hnone : '*' ∉ [' '].intercalate ws := fun h => hstar '*' h rfl
  rw [written, String.toList_ofList, List.count_append, List.count_eq_zero_of_not_mem hnone, List.count_replicate_self,
    Nat.zero_add]

end Written

theorem endsToken_of_mem_words {t : TypeRef} {w : List Char} (h : w ∈ t.words) : ∀ c ∈ w, endsToken c = false :=
  eq_false_of_mem_splitOnP (List.mem_filter.mp h).1

theorem isBaseToken_of_mem_words {t : TypeRef} {w : List Char} (h : w ∈ t.words) : isBaseToken w = true :=
  (List.mem_filter.mp h).2

def fullWords (t : TypeRef) : List (List Char) := if t.isConst then "const".toList :: t.words else t.words

theorem endsToken_of_mem_fullWords {t : TypeRef} : ∀ w ∈ t.fullWords, ∀ c ∈ w, endsToken c = false := by
  intro w hw
  unfold fullWords at hw
  split at hw
  · obtain rfl | hword := List.mem_cons.mp hw
    · have hconst : "const".toList.any endsToken = false := by decide
      exact fun c hc => Bool.eq_false_iff.mpr (List.any_eq_false.mp hconst c hc)
    · exact endsToken_of_mem_words hword
  · exact endsToken_of_mem_words hw

theorem filter_fullWords (t : TypeRef) : t.fullWords.filter isBaseToken = t.words := by
  have hwords : t.words.filter isBaseToken = t.words :=
    List.filter_eq_self.mpr fun _ => isBaseToken_of_mem_words
  unfold fullWords
  split
  · rw [List.filter_cons_of_neg (by decide), hwords]
  · exact hwords

theorem const_mem_fullWords_iff (t : TypeRef) : "const".toList ∈ t.fullWords ↔ t.isConst = true := by
  have hwords : "const".toList ∉ t.words := fun h => absurd (isBaseToken_of_mem_words h) (by decide)
  unfold fullWords
  split
  · next hconst => exact iff_of_true List.mem_cons_self hconst
  · next hconst => exact iff_of_false hwords hconst

theorem words_ne_nil {t : TypeRef} (hbase : t.baseSpelling ≠ "") : t.words ≠ [] := by
  intro h
  apply hbase
  change String.ofList ([' '].intercalate t.words) = ""
  rw [h]
  rfl

theorem fullSpelling_eq_written {t : TypeRef} (hbase : t.baseSpelling ≠ "") :
    t.fullSpelling = written t.fullWords t.level := by
  have hwords : t.baseOrName = String.ofList ([' '].intercalate t.words) := if_neg hbase
  unfold fullSpelling written fullWords
  rw [hwords, String.ofList_append]
  split
  · have hconst : String.ofList ("const".toList ++ [' ']) = "const " := by decide
    rw [List.intercalate_cons_of_ne_nil (words_ne_nil hbase), String.ofList_append, hconst]
  · rw [String.empty_append]

theorem deepens_of_fullSpelling {t : TypeRef} (hbase : t.baseSpelling ≠ "") :
    Deepens 0 t (of t.name t.fullSpelling) := by
  have hne : t.fullWords ≠ [] := by
    intro h
    apply words_ne_nil hbase
    rw [← filter_fullWords, h, List.filter_nil]
  have htokens : spellingTokens t.fullSpelling = t.fullWords ++ List.replicate t.level [] := by
    rw [fullSpelling_eq_written hbase]
    exact spellingTokens_written endsToken_of_mem_fullWords hne t.level
  refine ⟨rfl, ?_, ?_, ?_⟩
  · change (spellingTokens t.fullSpelling).contains "const".toList = t.isConst
    rw [Bool.eq_iff_iff, List.contains_iff_mem, htokens, List.mem_append, const_mem_fullWords_iff]
    exact or_iff_left fun h => absurd (List.eq_of_mem_replicate h) (by decide)
  · change String.ofList ([' '].intercalate ((spellingTokens t.fullSpelling).filter isBaseToken)) = t.baseSpelling
    rw [htokens, List.filter_append, filter_fullWords, filter_replicate_nil, List.append_nil]
    rfl
  · change t.fullSpelling.toList.count '*' = t.level
    rw [fullSpelling_eq_written hbase]
    exact count_written endsToken_of_mem_fullWords t.level

/-- The full spelling is a normal form. Read as a spelling it has the words, the stars and the constness of the type that
    it was written for, and it is its own full spelling. -/
theorem of_fullSpelling (t : TypeRef) (hbase : t.baseSpelling ≠ "") :
    let u := of t.name t.fullSpelling
    u.baseSpelling = t.baseSpelling ∧ u.level = t.level ∧ u.isConst = t.isConst ∧ u.fullSpelling = t.fullSpelling := by
  have h := deepens_of_fullSpelling hbase
  exact ⟨h.baseSpelling, h.level, h.isConst, h.fullSpelling.trans String.append_empty⟩

theorem of_fullSpelling_widget :
    let t := TypeRef.of "Gtk.Widget" "volatile\u00a0struct\t_GtkWidget *const * "
    let u := TypeRef.of t.name t.fullSpelling
    t.fullSpelling = "const struct _GtkWidget**" ∧ t.baseSpelling ≠ "" ∧
      u.baseSpelling = t.baseSpelling ∧ u.level = t.level ∧ u.isConst = t.isConst ∧ u.fullSpelling = t.fullSpelling := by
  intro t
  have hbase : t.baseSpelling ≠ "" := by decide
  exact ⟨by decide, hbase, of_fullSpelling t hbase⟩

theorem filter_tokens_append (cs : List Char) {delimiters : List Char} (h : ∀ c ∈ delimiters, endsToken c = true) :
    ((cs ++ delimiters).splitOnP endsToken).filter isBaseToken = (cs.splitOnP endsToken).filter isBaseToken := by
  rw [splitOnP_append_delimiters cs h, List.filter_append, filter_replicate_nil, List.append_nil]

theorem deepens_pointer (t : TypeRef) : Deepens 1 t t.pointer := by
  obtain ⟨blanks, hblanks, hspelling⟩ := exists_dropBlankEnd_append t.spelling.toList
  have hpointer : t.pointer.spelling.toList = dropBlankEnd t.spelling.toList ++ ['*'] := by
    change (trimEnd t.spelling ++ "*").toList = _
    rw [String.toList_append, trimEnd, String.toList_ofList]
    rfl
  refine ⟨rfl, rfl, ?_, ?_⟩
  · have hends : ∀ c ∈ blanks, endsToken c = true := by
      intro c hc
      rw [endsToken, hblanks c hc, Bool.true_or]
    have hstar : ∀ c ∈ ['*'], endsToken c = true := List.forall_mem_singleton.mpr endsToken_star
    unfold baseSpelling spellingTokens
    rw [hpointer, filter_tokens_append _ hstar, ← filter_tokens_append _ hends, hspelling]
  · have hstar : '*' ∉ blanks := fun h => absurd (hblanks '*' h) (by decide)
    have hlevel : t.level = (dropBlankEnd t.spelling.toList).count '*' := by
      rw [level, ← hspelling, List.count_append, List.count_eq_zero_of_not_mem hstar, hspelling, Nat.add_zero]
    rw [hlevel, level, hpointer, List.count_append]
    rfl

theorem deepens_iterate_pointer (t : TypeRef) (n : Nat) : Deepens n t (pointer^[n] t) := by
  induction n with
  | zero => exact .refl t
  | succ n ih =>
    rw [Function.iterate_succ_apply']
    exact ih.trans (deepens_pointer _)

theorem iterate_pointer_frame (t : TypeRef) (n : Nat) :
    pointer^[n] t = { t with spelling := (pointer^[n] t).spelling } := by
  induction n with
  | zero => rfl
  | succ n ih =>
    rw [Function.iterate_succ_apply']
    generalize pointer^[n] t = p at ih
    rw [ih]
    rfl

theorem isVoid_eq_false {t : TypeRef} (h : t.level ≠ 0) : t.isVoid = false := by
  simp [isVoid, h]

theorem isGenericPointer_eq_false {t : TypeRef} (h : t.level ≠ 0) : t.isGenericPointer = false := by
  simp [isGenericPointer, h]

/-- Pointing at a type `n` times adds `n` stars and changes nothing else. With a star it is neither void nor an untyped
    pointer, and it points directly at the type exactly if it was pointed at once. -/
theorem iterate_pointer_adds_stars (t : TypeRef) (n : Nat) :
    let p := pointer^[n] t
    p = { t with spelling := p.spelling } ∧ p.level = t.level + n ∧ p.baseSpelling = t.baseSpelling ∧
    p.fullSpelling = t.fullSpelling ++ String.ofList (List.replicate n '*') ∧
    (1 ≤ n → p.isVoid = false ∧ p.isGenericPointer = false) ∧
    (p.isDirectPointerTo t = true ↔ n = 1) := by
  have h := deepens_iterate_pointer t n
  refine ⟨iterate_pointer_frame t n, h.level, h.baseSpelling, h.fullSpelling, ?_, h.isDirectPointerTo_iff⟩
  intro hn
  have hlevel : (pointer^[n] t).level ≠ 0 := by
    rw [h.level]
    omega
  exact ⟨isVoid_eq_false hlevel, isGenericPointer_eq_false hlevel⟩

example : (pointer^[2] (of "Gdk.Event" " \t")).fullSpelling = "Event**" := by decide

end Introspection.TypeRef
