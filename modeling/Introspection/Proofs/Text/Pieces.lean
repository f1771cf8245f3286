import Introspection.Text.Split
import Mathlib.Data.List.DropRight

set_option autoImplicit false

namespace Introspection.Text

theorem withoutBeginning?_eq_some_iff {beginning s rest : String} :
    withoutBeginning? beginning s = some rest ↔ beginning ++ rest = s := by
  unfold withoutBeginning?
  rw [Option.map_eq_some_iff]
  constructor
  · rintro ⟨cs, hcs, rfl⟩
    rw [← String.toList_inj, String.toList_append, String.toList_ofList]
    exact List.isPrefixOf?_eq_some_iff_append_eq.mp hcs
  · rintro rfl
    exact ⟨rest.toList, List.isPrefixOf?_eq_some_iff_append_eq.mpr String.toList_append.symm, String.ofList_toList⟩

theorem withoutEnding?_eq_some_iff {ending s rest : String} :
    withoutEnding? ending s = some rest ↔ rest ++ ending = s := by
  unfold withoutEnding?
  rw [Option.map_eq_some_iff]
  constructor
  · rintro ⟨cs, hcs, rfl⟩
    rw [← String.toList_inj, String.toList_append, String.toList_ofList]
    exact List.isSuffixOf?_eq_some_iff_append_eq.mp hcs
  · rintro rfl
    exact ⟨rest.toList, List.isSuffixOf?_eq_some_iff_append_eq.mpr String.toList_append.symm, String.ofList_toList⟩

theorem exists_dropBlankEnd_append (cs : List Char) :
    ∃ blanks, (∀ c ∈ blanks, isBlank c = true) ∧ dropBlankEnd cs ++ blanks = cs :=
  ⟨cs.rtakeWhile isBlank, fun _ => List.mem_rtakeWhile_imp, List.rdropWhile_append_rtakeWhile⟩

theorem dropBlankEnds_subset (cs : List Char) : dropBlankEnds cs ⊆ cs := by
  have hend := List.rdropWhile_prefix isBlank (cs.dropWhile isBlank)
  exact List.Subset.trans hend.subset (List.dropWhile_suffix isBlank).subset

theorem dropBlankEnds_idempotent (cs : List Char) : dropBlankEnds (dropBlankEnds cs) = dropBlankEnds cs := by
  have hbeginning : (dropBlankEnds cs).dropWhile isBlank = dropBlankEnds cs := by
    obtain ⟨blanks, hblanks⟩ := List.rdropWhile_prefix isBlank (cs.dropWhile isBlank)
    change dropBlankEnds cs ++ blanks = cs.dropWhile isBlank at hblanks
    cases hleft : dropBlankEnds cs with
    | nil => rfl
    | cons c rest =>
      have hc : isBlank c = false := by simpa [← hblanks, hleft] using List.head?_dropWhile_not isBlank cs
      rw [List.dropWhile_cons_of_neg (by simp [hc])]
  rw [dropBlankEnds, hbeginning]
  exact List.rdropWhile_idempotent isBlank _

theorem splitFirst_append {pattern cs before after : List Char}
    (h : splitFirst pattern cs = some (before, after)) : cs = before ++ pattern ++ after := by
  induction cs generalizing before after with
  | nil =>
    obtain ⟨rest, hrest, hpair⟩ := Option.map_eq_some_iff.mp h
    cases hpair
    simpa using (List.isPrefixOf?_eq_some_iff_append_eq.mp hrest).symm
  | cons c cs ih =>
    simp only [splitFirst] at h
    split at h
    · next rest hrest =>
      cases h
      simpa using (List.isPrefixOf?_eq_some_iff_append_eq.mp hrest).symm
    · obtain ⟨⟨b, a⟩, hsplit, hpair⟩ := Option.map_eq_some_iff.mp h
      cases hpair
      simp [ih hsplit]

theorem splitFirst_isSome_iff {pattern cs : List Char} : (splitFirst pattern cs).isSome = true ↔ pattern <:+: cs := by
  constructor
  · intro h
    obtain ⟨⟨before, after⟩, hsplit⟩ := Option.isSome_iff_exists.mp h
    exact ⟨before, after, (splitFirst_append hsplit).symm⟩
  · intro h
    induction cs with
    | nil =>
      obtain rfl := List.infix_nil.mp h
      rfl
    | cons c cs ih =>
      unfold splitFirst
      split
      · rfl
      · next hnone =>
        obtain ⟨rest, hrest⟩ | hlater := List.infix_cons_iff.mp h
        · exact absurd (List.isPrefixOf?_eq_some_iff_append_eq.mpr hrest) (by simp [hnone])
        · rw [Option.isSome_map]
          exact ih hlater

theorem contains_iff_infix {pattern s : String} : contains pattern s = true ↔ pattern.toList <:+: s.toList :=
  splitFirst_isSome_iff

theorem length_le_of_splitFirst {pattern cs before after : List Char}
    (h : splitFirst pattern cs = some (before, after)) {before' after' : List Char}
    (hcs : cs = before' ++ pattern ++ after') : before.length ≤ before'.length := by
  induction cs generalizing before before' with
  | nil =>
    obtain ⟨rest, _, hpair⟩ := Option.map_eq_some_iff.mp h
    cases hpair
    exact Nat.zero_le _
  | cons c cs ih =>
    simp only [splitFirst] at h
    split at h
    · cases h
      exact Nat.zero_le _
    · next hnone =>
      obtain ⟨⟨b, a⟩, hsplit, hpair⟩ := Option.map_eq_some_iff.mp h
      cases hpair
      cases before' with
      | nil => exact absurd (List.isPrefixOf?_eq_some_iff_append_eq.mpr hcs.symm) (by simp [hnone])
      | cons d before' => exact Nat.succ_le_succ (ih hsplit (List.cons.inj hcs).2)

/-- What follows the text does not move the first occurrence in it. -/
theorem splitFirst_append_of_some {pattern cs before after : List Char}
    (h : splitFirst pattern cs = some (before, after)) (rest : List Char) :
    splitFirst pattern (cs ++ rest) = some (before, after ++ rest) := by
  induction cs generalizing before after with
  | nil =>
    obtain ⟨left, hleft, hpair⟩ := Option.map_eq_some_iff.mp h
    cases hpair
    obtain ⟨rfl, rfl⟩ := List.append_eq_nil_iff.mp (List.isPrefixOf?_eq_some_iff_append_eq.mp hleft)
    cases rest <;> rfl
  | cons c cs ih =>
    rw [List.cons_append]
    simp only [splitFirst] at h ⊢
    split at h
    · next left hleft =>
      cases h
      have hbegins : pattern.isPrefixOf? (c :: (cs ++ rest)) = some (after ++ rest) := by
        rw [List.isPrefixOf?_eq_some_iff_append_eq, ← List.append_assoc, List.isPrefixOf?_eq_some_iff_append_eq.mp hleft]
        rfl
      rw [hbegins]
    · next hnone =>
      obtain ⟨⟨b, a⟩, hsplit, hpair⟩ := Option.map_eq_some_iff.mp h
      cases hpair
      have hfront : pattern.isPrefixOf? (c :: (cs ++ rest)) = none := by
        rw [Option.eq_none_iff_forall_ne_some]
        intro left hleft
        have hlong : pattern <+: (c :: cs) ++ rest := ⟨left, List.isPrefixOf?_eq_some_iff_append_eq.mp hleft⟩
        have hlength : pattern.length ≤ (c :: cs).length := by
          rw [splitFirst_append hsplit]
          simp only [List.length_cons, List.length_append]
          omega
        obtain ⟨short, hshort⟩ := List.prefix_of_prefix_length_le hlong (List.prefix_append _ _) hlength
        exact absurd (hnone.symm.trans (List.isPrefixOf?_eq_some_iff_append_eq.mpr hshort)) (by simp)
      rw [hfront, ih hsplit]
      rfl

/-- A pattern of two letters does not reach over a border to a letter that is not its second. -/
theorem splitFirst_append_of_none {x y z : Char} (hyz : y ≠ z) {cs : List Char}
    (h : splitFirst [x, y] cs = none) (rest : List Char) :
    splitFirst [x, y] (cs ++ z :: rest) =
      (splitFirst [x, y] (z :: rest)).map fun p => (cs ++ p.1, p.2) := by
  induction cs with
  | nil => simp
  | cons c cs ih =>
    simp only [splitFirst] at h
    split at h
    · cases h
    · next hnone =>
      rw [Option.map_eq_none_iff] at h
      have hfront : [x, y].isPrefixOf? (c :: (cs ++ z :: rest)) = none := by
        rw [Option.eq_none_iff_forall_ne_some]
        intro left hleft
        have hcons := List.isPrefixOf?_eq_some_iff_append_eq.mp hleft
        cases cs with
        | nil =>
          simp only [List.cons_append, List.nil_append, List.cons.injEq] at hcons
          exact hyz hcons.2.1
        | cons d ds =>
          simp only [List.cons_append, List.nil_append, List.cons.injEq] at hcons
          obtain ⟨rfl, rfl, _⟩ := hcons
          exact absurd (hnone.symm.trans (List.isPrefixOf?_eq_some_iff_append_eq.mpr rfl)) (by simp)
      rw [List.cons_append, splitFirst, hfront, ih h, Option.map_map]
      rfl

section Delimiters

variable {α : Type} {p : α → Bool}

theorem eq_false_of_mem_splitOnP {xs piece : List α} (h : piece ∈ xs.splitOnP p) : ∀ x ∈ piece, p x = false := by
  induction xs generalizing piece with
  | nil =>
    obtain rfl : piece = [] := by simpa using h
    simp
  | cons y xs ih =>
    rw [List.splitOnP_cons_eq_if_modifyHead] at h
    split at h
    · obtain rfl | hlater := List.mem_cons.mp h
      · simp
      · exact ih hlater
    · next hy =>
      obtain ⟨first, pieces, hsplit⟩ := List.exists_cons_of_ne_nil (List.splitOnP_ne_nil p xs)
      rw [hsplit] at h ih
      obtain rfl | hlater := List.mem_cons.mp h
      · exact List.forall_mem_cons.mpr ⟨by simpa using hy, ih List.mem_cons_self⟩
      · exact ih (List.mem_cons_of_mem first hlater)

theorem flatten_splitOnP (xs : List α) : (xs.splitOnP p).flatten = xs.filter fun x => !p x := by
  induction xs with
  | nil => simp
  | cons x xs ih =>
    rw [List.splitOnP_cons_eq_if_modifyHead, List.filter_cons]
    split
    · next hx => simp [hx, ih]
    · next hx =>
      obtain ⟨first, pieces, hsplit⟩ := List.exists_cons_of_ne_nil (List.splitOnP_ne_nil p xs)
      rw [hsplit] at ih ⊢
      simpa [hx] using ih

theorem forall_mem_intercalate {q : α → Prop} {delimiter : α} (hdelimiter : q delimiter) {pieces : List (List α)}
    (hpieces : ∀ piece ∈ pieces, ∀ x ∈ piece, q x) : ∀ x ∈ [delimiter].intercalate pieces, q x := by
  induction pieces with
  | nil => simp
  | cons piece pieces ih =>
    obtain ⟨hpiece, hrest⟩ := List.forall_mem_cons.mp hpieces
    cases pieces with
    | nil => rwa [List.intercalate_singleton]
    | cons next pieces =>
      rw [List.intercalate_cons_cons, List.forall_mem_append, List.forall_mem_append]
      exact ⟨⟨hpiece, by simpa using hdelimiter⟩, ih hrest⟩

theorem splitOnP_intercalate {delimiter : α} (hdelimiter : p delimiter = true) {pieces : List (List α)}
    (hne : pieces ≠ []) (hpieces : ∀ piece ∈ pieces, ∀ x ∈ piece, p x = false) :
    ([delimiter].intercalate pieces).splitOnP p = pieces := by
  induction pieces with
  | nil => exact absurd rfl hne
  | cons piece pieces ih =>
    obtain ⟨hpiece, hrest⟩ := List.forall_mem_cons.mp hpieces
    cases pieces with
    | nil => rw [List.intercalate_singleton, List.splitOnP_eq_singleton hpiece]
    | cons next pieces =>
      rw [List.intercalate_cons_cons, List.append_assoc, List.singleton_append,
        List.splitOnP_append_cons_of_forall_mem hpiece delimiter hdelimiter, ih (by simp) hrest]

/-- Delimiters at the end add one empty piece each. -/
theorem splitOnP_append_delimiters (xs : List α) {delimiters : List α} (h : ∀ d ∈ delimiters, p d = true) :
    (xs ++ delimiters).splitOnP p = xs.splitOnP p ++ List.replicate delimiters.length [] := by
  induction delimiters generalizing xs with
  | nil => simp
  | cons d delimiters ih =>
    obtain ⟨hd, hrest⟩ := List.forall_mem_cons.mp h
    have hempty := ih [] hrest
    rw [List.nil_append, List.splitOnP_nil] at hempty
    rw [List.splitOnP_append_cons xs delimiters hd, hempty]
    rfl

end Delimiters

end Introspection.Text
