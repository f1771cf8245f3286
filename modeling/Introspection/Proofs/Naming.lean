import Introspection.Naming
import Introspection.Proofs.Text.Pieces
import Mathlib.Data.List.Chain

/-!
Spellings of identifiers keep what is spelled. Snake case has the characters of the text other than separators, with
small letters for the ASCII capitals, and Pascal case has the words of the text, each with its first letter capitalised.

What Pascal case gives is one word that begins in its own way, so it is given back. Snake case makes an ASCII capital
small, and a second reading takes a word to end there if a capital follows that is still one. This happens for capitals
outside the ASCII range alone.
-/

set_option autoImplicit false

namespace Introspection

open Text

theorem isUpper_iff {c : Char} : c.isUpper = true ↔ 65 ≤ c.toNat ∧ c.toNat ≤ 90 := by
  change decide (c.val ≥ 'A'.val ∧ c.val ≤ 'Z'.val) = true ↔ _
  simp [UInt32.le_iff_toNat_le, ← Char.toNat_val]

theorem isLower_iff {c : Char} : c.isLower = true ↔ 97 ≤ c.toNat ∧ c.toNat ≤ 122 := by
  change (decide (c.val ≥ 'a'.val) && decide (c.val ≤ 'z'.val)) = true ↔ _
  simp [UInt32.le_iff_toNat_le, ← Char.toNat_val]

theorem toNat_toLower (c : Char) : c.toLower.toNat = if c.isUpper = true then c.toNat + 32 else c.toNat := by
  have hcond : c.isUpper = true ↔ c.val ≥ 'A'.val ∧ c.val ≤ 'Z'.val := by
    simp [isUpper_iff, UInt32.le_iff_toNat_le, ← Char.toNat_val]
  unfold Char.toLower
  split
  · next h =>
    have hrange := isUpper_iff.mp (hcond.mpr h)
    rw [if_pos (hcond.mpr h)]
    simp only [← Char.toNat_val, UInt32.toNat_add] at hrange ⊢
    rw [show ('a'.val - 'A'.val).toNat = 32 from rfl]
    omega
  · next h => rw [if_neg (mt hcond.mp h)]

theorem toNat_toUpper (c : Char) : c.toUpper.toNat = if c.isLower = true then c.toNat - 32 else c.toNat := by
  have hcond : c.isLower = true ↔ c.val ≥ 'a'.val ∧ c.val ≤ 'z'.val := by
    simp [isLower_iff, UInt32.le_iff_toNat_le, ← Char.toNat_val]
  unfold Char.toUpper
  split
  · next h =>
    have hrange := isLower_iff.mp (hcond.mpr h)
    rw [if_pos (hcond.mpr h)]
    simp only [← Char.toNat_val, UInt32.toNat_add] at hrange ⊢
    rw [show ('A'.val - 'a'.val).toNat = 2 ^ 32 - 32 from rfl]
    omega
  · next h => rw [if_neg (mt hcond.mp h)]

theorem isSeparator_iff {c : Char} : isSeparator c = true ↔ c.toNat = 45 ∨ c.toNat = 95 := by
  rw [isSeparator, Bool.or_eq_true, beq_iff_eq, beq_iff_eq, ← Char.toNat_inj, ← Char.toNat_inj]
  rfl

theorem isSeparator_toLower (c : Char) : isSeparator c.toLower = isSeparator c := by
  rw [Bool.eq_iff_iff, isSeparator_iff, isSeparator_iff, toNat_toLower]
  split
  · next h =>
    rw [isUpper_iff] at h
    omega
  · rfl

theorem isSeparator_toUpper (c : Char) : isSeparator c.toUpper = isSeparator c := by
  rw [Bool.eq_iff_iff, isSeparator_iff, isSeparator_iff, toNat_toUpper]
  split
  · next h =>
    rw [isLower_iff] at h
    omega
  · rfl

theorem isCapital_of_isUpper {c : Char} (h : c.isUpper = true) : isCapital c = true := by
  have hrange := isUpper_iff.mp h
  rw [isCapital, if_pos (by omega), h]

theorem isUpper_of_isCapital {c : Char} (hascii : c.toNat < 128) (h : isCapital c = true) : c.isUpper = true := by
  rwa [isCapital, if_pos hascii] at h

theorem toLower_of_not_isUpper {c : Char} (h : ¬ c.isUpper = true) : c.toLower = c := by
  rw [← Char.toNat_inj, toNat_toLower, if_neg h]

theorem toLower_of_not_isCapital {c : Char} (h : ¬ isCapital c = true) : c.toLower = c :=
  toLower_of_not_isUpper (mt isCapital_of_isUpper h)

theorem toNat_toLower_range {c : Char} (h : c.isUpper = true) : 97 ≤ c.toLower.toNat ∧ c.toLower.toNat ≤ 122 := by
  have hrange := isUpper_iff.mp h
  rw [toNat_toLower, if_pos h]
  omega

theorem toLower_toLower (c : Char) : c.toLower.toLower = c.toLower := by
  by_cases h : c.isUpper = true
  · have hrange := toNat_toLower_range h
    apply toLower_of_not_isUpper
    rw [isUpper_iff]
    omega
  · rw [toLower_of_not_isUpper h, toLower_of_not_isUpper h]

theorem toUpper_toUpper (c : Char) : c.toUpper.toUpper = c.toUpper := by
  have hsmall : ¬ c.toUpper.isLower = true := by
    rw [isLower_iff, toNat_toUpper]
    split
    · next h =>
      rw [isLower_iff] at h
      omega
    · next h =>
      rwa [isLower_iff] at h
  rw [← Char.toNat_inj, toNat_toUpper, if_neg hsmall]

theorem isSeparator_of_isCapital {c : Char} (h : isCapital c = true) : isSeparator c = false := by
  rw [Bool.eq_false_iff, ne_eq, isSeparator_iff]
  intro hnat
  have hupper := isUpper_iff.mp (isUpper_of_isCapital (by omega) h)
  omega

/-- Only capitals outside the ASCII range stay capital. -/
theorem isCapital_toLower_iff {c : Char} : isCapital c.toLower = true ↔ isCapital c = true ∧ ¬ c.isUpper = true := by
  by_cases h : c.isUpper = true
  · have hrange := toNat_toLower_range h
    have hsmall : ¬ isCapital c.toLower = true := by
      intro hcapital
      have := isUpper_iff.mp (isUpper_of_isCapital (by omega) hcapital)
      omega
    simp [hsmall, h]
  · simp [toLower_of_not_isUpper h, h]

theorem isSmall_toLower {c : Char} (h : c.isUpper = true) : isSmall c.toLower = true := by
  have hrange := toNat_toLower_range h
  rw [isSmall, if_pos (by omega), isLower_iff]
  exact hrange

def without (signs : List Char) (s : String) : String := String.ofList (s.toList.filter (· ∉ signs))

theorem without_separators (s : String) :
    without ['-', '_'] s = String.ofList (s.toList.filter fun c => !isSeparator c) := by
  simp [without, isSeparator, Bool.beq_eq_decide_eq]

def snakeStep (afterSmall : Bool) (c : Char) : List Char :=
  if isSeparator c then ['_']
  else if isCapital c && afterSmall then ['_', c.toLower]
  else [c.toLower]

/-- A capital after this character begins a new word. -/
def endsSmall (c : Char) : Bool := !isSeparator c && !isCapital c && (isSmall c || c.isDigit)

theorem snakeChars_cons (afterSmall : Bool) (c : Char) (cs : List Char) :
    snakeChars afterSmall (c :: cs) = snakeStep afterSmall c ++ snakeChars (endsSmall c) cs := by
  rw [snakeChars]
  by_cases hseparator : isSeparator c = true
  · simp [snakeStep, endsSmall, hseparator]
  by_cases hcapital : isCapital c = true
  · cases afterSmall <;> simp [snakeStep, endsSmall, hseparator, hcapital]
  · simp [snakeStep, endsSmall, hseparator, hcapital, toLower_of_not_isCapital hcapital]

theorem filter_snakeStep (afterSmall : Bool) (c : Char) :
    (snakeStep afterSmall c).filter (· ∉ ['_']) = ([c].filter fun d => !isSeparator d).map Char.toLower := by
  by_cases hseparator : isSeparator c = true
  · simp [snakeStep, hseparator]
  · have hlower : c.toLower ≠ '_' := by
      intro h
      rw [← isSeparator_toLower, h] at hseparator
      exact hseparator rfl
    rw [snakeStep, if_neg hseparator]
    split <;> simp [hseparator, hlower]

theorem filter_snakeChars (afterSmall : Bool) (cs : List Char) :
    (snakeChars afterSmall cs).filter (· ∉ ['_']) = (cs.filter fun c => !isSeparator c).map Char.toLower := by
  induction cs generalizing afterSmall with
  | nil => rfl
  | cons c cs ih =>
    rw [snakeChars_cons, List.filter_append, filter_snakeStep, ih, ← List.map_append, ← List.filter_append]
    rfl

theorem without_snakeCase (s : String) : without ['_'] (snakeCase s) = (without ['-', '_'] s).toLower := by
  change without ['_'] (snakeCase s) = (without ['-', '_'] s).map Char.toLower
  rw [without_separators, ← String.toList_inj, String.toList_map]
  simp only [without, snakeCase, String.toList_ofList]
  exact filter_snakeChars false s.toList

theorem endsSmall_toLower (c : Char) : endsSmall c.toLower = (c.isUpper || endsSmall c) := by
  by_cases h : c.isUpper = true
  · have hcapital : ¬ isCapital c.toLower = true := fun hc => (isCapital_toLower_iff.mp hc).2 h
    simp [endsSmall, isSeparator_toLower, isSeparator_of_isCapital (isCapital_of_isUpper h), hcapital, isSmall_toLower h,
      h]
  · simp [toLower_of_not_isUpper h, h]

theorem snakeStep_toLower {afterSmall : Bool} {c : Char} (hseparator : ¬ isSeparator c = true)
    (h : ¬ (isCapital c.toLower && afterSmall) = true) : snakeStep afterSmall c.toLower = [c.toLower] := by
  rw [snakeStep, isSeparator_toLower, if_neg hseparator, if_neg h, toLower_toLower]

/-- Read again, what was written for a character stays as it is, unless the character is still a capital and comes after
    a small letter now but did not before. -/
theorem snakeChars_snakeStep {before now : Bool} {c : Char}
    (h : isCapital c.toLower = true → now = true → before = true) (rest : List Char) :
    snakeChars now (snakeStep before c ++ rest) = snakeStep before c ++ snakeChars (endsSmall c.toLower) rest := by
  by_cases hseparator : isSeparator c = true
  · have hends : endsSmall c.toLower = false := by simp [endsSmall, isSeparator_toLower, hseparator]
    rw [snakeStep, if_pos hseparator, List.singleton_append, snakeChars_cons, hends]
    rfl
  rw [snakeStep, if_neg hseparator]
  split
  · change snakeChars now ('_' :: c.toLower :: rest) = '_' :: ([c.toLower] ++ _)
    have hlower : snakeStep false c.toLower = [c.toLower] := snakeStep_toLower hseparator (by simp)
    rw [snakeChars_cons, snakeChars_cons, ← hlower]
    rfl
  · next hbefore =>
    have hnow : ¬ (isCapital c.toLower && now) = true := by
      intro hboth
      obtain ⟨hcapital, hnow⟩ := Bool.and_eq_true_iff.mp hboth
      exact hbefore (Bool.and_eq_true_iff.mpr ⟨(isCapital_toLower_iff.mp hcapital).1, h hcapital hnow⟩)
    rw [List.singleton_append, snakeChars_cons, snakeStep_toLower hseparator hnow]

/-- A capital that follows an ASCII capital is in the ASCII range as well. -/
def SameCapitals (a b : Char) : Prop := a.isUpper = true → isCapital b = true → b.isUpper = true

/-- The flags of both readings are those that the last character has left, as it was and as it is written. -/
theorem snakeChars_snakeChars_iff (last : Char) (cs : List Char) :
    snakeChars (endsSmall last.toLower) (snakeChars (endsSmall last) cs) = snakeChars (endsSmall last) cs ↔
      (last :: cs).IsChain SameCapitals := by
  induction cs generalizing last with
  | nil => simp [snakeChars]
  | cons c cs ih =>
    rw [List.isChain_cons_cons, ← ih c, snakeChars_cons (endsSmall last)]
    by_cases hsame : SameCapitals last c
    · have hflags : isCapital c.toLower = true → endsSmall last.toLower = true → endsSmall last = true := by
        intro hcapital hlast
        obtain ⟨hc, hforeign⟩ := isCapital_toLower_iff.mp hcapital
        have hupper : ¬ last.isUpper = true := fun hupper => hforeign (hsame hupper hc)
        simpa [endsSmall_toLower, hupper] using hlast
      rw [snakeChars_snakeStep hflags, List.append_cancel_left_eq]
      exact (and_iff_right hsame).symm
    · -- The second reading begins a word at `c`, which the first one has written without an underscore.
      refine iff_of_false ?_ fun h => hsame h.1
      simp only [SameCapitals, Classical.not_imp] at hsame
      obtain ⟨hupper, hcapital, hforeign⟩ := hsame
      have hbefore : endsSmall last = false := by simp [endsSmall, isCapital_of_isUpper hupper]
      have hnow : endsSmall last.toLower = true := by rw [endsSmall_toLower, hupper, Bool.true_or]
      have hsettled : c.toLower = c := toLower_of_not_isUpper hforeign
      have hseparator := isSeparator_of_isCapital hcapital
      rw [hbefore, hnow]
      simp only [snakeStep, hseparator, hsettled, snakeChars_cons, hcapital, Bool.and_false, Bool.and_true, if_true,
        if_false, Bool.false_eq_true, List.cons_append, List.nil_append, List.cons.injEq]
      rintro ⟨rfl, _⟩
      exact absurd hcapital (by decide)

theorem snakeCase_snakeCase_iff (s : String) :
    snakeCase (snakeCase s) = snakeCase s ↔ s.toList.IsChain SameCapitals := by
  have hstart : ('_' :: s.toList).IsChain SameCapitals ↔ s.toList.IsChain SameCapitals := by
    rw [List.isChain_cons]
    exact and_iff_right fun _ _ hupper => absurd hupper (by decide)
  rw [← hstart, ← snakeChars_snakeChars_iff, snakeCase, snakeCase, String.toList_ofList, String.ofList_inj]
  rfl

example : snakeCase "AÉ" = "aÉ" ∧ snakeCase "aÉ" = "a_É" := by decide

theorem snakeCase_snakeCase_of_ascii {s : String} (h : ∀ c ∈ s.toList, c.toNat < 128) :
    snakeCase (snakeCase s) = snakeCase s := by
  rw [snakeCase_snakeCase_iff]
  apply List.Pairwise.isChain
  apply List.pairwise_of_forall_mem_list
  intro a _ b hb _ hcapital
  exact isUpper_of_isCapital (h b hb) hcapital

/-- The pieces between separators. Where two separators meet, or one is at an end, there is an empty one. -/
def words (s : String) : List String := (s.toList.splitOnP isSeparator).map String.ofList

theorem join_words (s : String) : String.join (words s) = without ['-', '_'] s := by
  rw [without_separators, ← String.toList_inj, String.toList_join, String.toList_ofList, ← flatten_splitOnP, words,
    List.flatMap_map]
  simp [List.flatMap_def]

theorem toList_capitalize (s : String) : s.capitalize.toList = s.toList.modifyHead Char.toUpper := by
  unfold String.capitalize String.Pos.Raw.set String.Pos.Raw.get
  rw [String.toList_ofList]
  cases s.toList with
  | nil => rfl
  | cons c cs => rfl

theorem pascalChars_eq_pieces (atStart : Bool) {cs first : List Char} {pieces : List (List Char)}
    (h : cs.splitOnP isSeparator = first :: pieces) :
    pascalChars atStart cs =
      (if atStart then first.modifyHead Char.toUpper else first) ++ pieces.flatMap (·.modifyHead Char.toUpper) := by
  induction cs generalizing atStart first pieces with
  | nil =>
    obtain ⟨rfl, rfl⟩ : [] = first ∧ [] = pieces := by simpa using h
    cases atStart <;> rfl
  | cons c cs ih =>
    obtain ⟨next, rest, hsplit⟩ := List.exists_cons_of_ne_nil (List.splitOnP_ne_nil isSeparator cs)
    rw [List.splitOnP_cons_eq_if_modifyHead, hsplit] at h
    rw [pascalChars]
    split at h
    · next hseparator =>
      obtain ⟨rfl, rfl⟩ := List.cons.inj h
      rw [if_pos hseparator, ih true hsplit]
      cases atStart <;> rfl
    · next hseparator =>
      obtain ⟨rfl, rfl⟩ := List.cons.inj h
      rw [if_neg hseparator, ih false hsplit]
      cases atStart <;> rfl

theorem pascalChars_true (cs : List Char) :
    pascalChars true cs = (cs.splitOnP isSeparator).flatMap (·.modifyHead Char.toUpper) := by
  obtain ⟨first, pieces, hsplit⟩ := List.exists_cons_of_ne_nil (List.splitOnP_ne_nil isSeparator cs)
  rw [hsplit, pascalChars_eq_pieces true hsplit]
  rfl

theorem pascalCase_eq_join (s : String) : pascalCase s = String.join ((words s).map String.capitalize) := by
  rw [← String.toList_inj, pascalCase, String.toList_ofList, String.toList_join, pascalChars_true, words, List.map_map,
    List.flatMap_map]
  simp [toList_capitalize]

theorem isSeparator_of_mem_pascalChars {atStart : Bool} {cs : List Char} :
    ∀ c ∈ pascalChars atStart cs, isSeparator c = false := by
  induction cs generalizing atStart with
  | nil => simp [pascalChars]
  | cons d cs ih =>
    rw [pascalChars]
    split
    · exact ih
    · next hseparator =>
      refine List.forall_mem_cons.mpr ⟨?_, ih⟩
      split
      · rw [isSeparator_toUpper, Bool.eq_false_iff]
        exact hseparator
      · exact Bool.eq_false_iff.mpr hseparator

theorem modifyHead_pascalChars (cs : List Char) :
    (pascalChars true cs).modifyHead Char.toUpper = pascalChars true cs := by
  induction cs with
  | nil => rfl
  | cons c cs ih =>
    rw [pascalChars]
    split
    · exact ih
    · simp [toUpper_toUpper]

theorem pascalCase_pascalCase (s : String) : pascalCase (pascalCase s) = pascalCase s := by
  have hword : (pascalChars true s.toList).splitOnP isSeparator = [pascalChars true s.toList] :=
    List.splitOnP_eq_singleton isSeparator_of_mem_pascalChars
  rw [pascalCase, pascalCase, String.toList_ofList, pascalChars_true (pascalChars true s.toList), hword,
    List.flatMap_singleton, modifyHead_pascalChars]

/-- Neither spelling loses a character. Snake case less its underscores is the text less its separators, in small
    letters; Pascal case has no separator and is the words of the text, capitalised. To spell it a second time changes
    nothing in Pascal case, and nothing in the snake case of an ASCII text. -/
theorem caseConversion_lossless_and_stable (s : String) :
    without ['_'] (snakeCase s) = (without ['-', '_'] s).toLower ∧
    ('-' ∉ (pascalCase s).toList ∧ '_' ∉ (pascalCase s).toList) ∧
    (String.join (words s) = without ['-', '_'] s ∧ pascalCase s = String.join ((words s).map String.capitalize)) ∧
    pascalCase (pascalCase s) = pascalCase s ∧
    ((∀ c ∈ s.toList, c.toNat < 128) → snakeCase (snakeCase s) = snakeCase s) := by
  have hseparator : ∀ c ∈ (pascalCase s).toList, isSeparator c = false := by
    rw [pascalCase, String.toList_ofList]
    exact isSeparator_of_mem_pascalChars
  refine ⟨without_snakeCase s, ⟨?_, ?_⟩, ⟨join_words s, pascalCase_eq_join s⟩, pascalCase_pascalCase s,
    snakeCase_snakeCase_of_ascii⟩
  · exact fun h => absurd (hseparator '-' h) (by decide)
  · exact fun h => absurd (hseparator '_' h) (by decide)

theorem caseConversion_lossless_and_stable_server :
    (∀ c ∈ "HTTPServer-v2Name".toList, c.toNat < 128) ∧ snakeCase "HTTPServer-v2Name" = "httpserver_v2_name" ∧
    snakeCase (snakeCase "HTTPServer-v2Name") = snakeCase "HTTPServer-v2Name" := by
  have hascii : ∀ c ∈ "HTTPServer-v2Name".toList, c.toNat < 128 := by simp
  exact ⟨hascii, by decide, (caseConversion_lossless_and_stable "HTTPServer-v2Name").2.2.2.2 hascii⟩

end Introspection
