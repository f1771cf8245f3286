import Introspection.Markup.Document
import Introspection.Markup.Writer

set_option autoImplicit false

namespace Introspection.Text

theorem cutAt_append_cons {p : Char → Bool} {before : List Char} {c : Char} (hbefore : ∀ d ∈ before, p d = false)
    (hc : p c = true) (after : List Char) : cutAt p (before ++ c :: after) = some (before, after) := by
  induction before with
  | nil => simp [cutAt, hc]
  | cons d before ih =>
    obtain ⟨hd, hbefore⟩ := List.forall_mem_cons.mp hbefore
    simp [cutAt, hd, ih hbefore]

end Introspection.Text

namespace Introspection.Markup

open Text

/-- Only `&` and `;` bound a reference, and `<` breaks one off. -/
def isReferenceChar (c : Char) : Bool := c != ';' && c != '&' && c != '<'

theorem escapeChar_cases (c : Char) :
    (isPlain c = true ∧ c ≠ '"' ∧ escapeChar c = [c]) ∨
    ∃ body, escapeChar c = '&' :: body ++ [';'] ∧ predefined? body = some c ∧ body.all isReferenceChar = true ∧
      '"' ∉ body := by
  unfold escapeChar
  split
  · next h => exact Or.inr ⟨"amp".toList, by decide, by rw [h]; decide, by decide, by decide⟩
  · split
    · next h => exact Or.inr ⟨"lt".toList, by decide, by rw [h]; decide, by decide, by decide⟩
    · split
      · next h => exact Or.inr ⟨"gt".toList, by decide, by rw [h]; decide, by decide, by decide⟩
      · split
        · next h => exact Or.inr ⟨"quot".toList, by decide, by rw [h]; decide, by decide, by decide⟩
        · next hamp hlt _ hquot =>
          split
          · next h => exact Or.inr ⟨"apos".toList, by decide, by rw [h]; decide, by decide, by decide⟩
          · exact Or.inl ⟨by simp [isPlain, hamp, hlt], hquot, rfl⟩

theorem quote_not_mem_escape (content : List Char) : '"' ∉ escape content := by
  intro hmem
  obtain ⟨c, _, hc⟩ := List.mem_flatMap.mp hmem
  obtain ⟨_, hne, heq⟩ | ⟨body, heq, _, _, hbody⟩ := escapeChar_cases c
  · rw [heq] at hc
    exact hne (List.mem_singleton.mp hc).symm
  · simp [heq, hbody] at hc

theorem predefined?_head {body : List Char} {c : Char} (h : predefined? body = some c) : body.head? ≠ some '#' := by
  unfold predefined? at h
  split at h
  · next hbody => rw [hbody]; decide
  · split at h
    · next hbody => rw [hbody]; decide
    · split at h
      · next hbody => rw [hbody]; decide
      · split at h
        · next hbody => rw [hbody]; decide
        · split at h
          · next hbody => rw [hbody]; decide
          · cases h

theorem referenceInText_of_predefined? {body : List Char} {c : Char} (h : predefined? body = some c) :
    referenceInText body = [c] := by
  have hcharacter : characterInText? body = some c := by
    unfold characterInText?
    split
    · exact absurd rfl (predefined?_head h)
    · exact absurd rfl (predefined?_head h)
    · exact absurd rfl (predefined?_head h)
    · exact h
  simp [referenceInText, hcharacter]

theorem characterInValue_of_predefined? {body : List Char} {c : Char} (h : predefined? body = some c)
    (start stop : Nat) : characterInValue start stop body = .ok c := by
  unfold characterInValue
  split
  · exact absurd rfl (predefined?_head h)
  · simp [h]

theorem decodeFrom_reference {body : List Char} {c : Char} (hbody : body.all isReferenceChar = true)
    {pending : OpenReference} (hc : predefined? (pending.body ++ body) = some c) (size here : Nat)
    (rest : List Char) :
    ∃ next, decodeFrom size here (some pending) (body ++ ';' :: rest) =
      (decodeFrom size next none rest).map (c :: ·) := by
  induction body generalizing pending here with
  | nil =>
    rw [List.append_nil] at hc
    refine ⟨here + 1, ?_⟩
    simp only [List.nil_append, decodeFrom, characterInValue_of_predefined? hc]
    rfl
  | cons d body ih =>
    rw [List.all_cons, Bool.and_eq_true] at hbody
    obtain ⟨hd, hbody⟩ := hbody
    rw [List.append_cons] at hc
    obtain ⟨next, hnext⟩ := @ih hbody { pending with body := pending.body ++ [d] } hc (here + d.utf8Size)
    simp only [isReferenceChar, Bool.and_eq_true, bne_iff_ne] at hd
    refine ⟨next, ?_⟩
    rw [List.cons_append, decodeFrom, if_neg hd.1.2, if_neg hd.1.1]
    exact hnext

theorem decodeFrom_escape (size here : Nat) (content : List Char) :
    decodeFrom size here none (escape content) = .ok content := by
  induction content generalizing here with
  | nil => rfl
  | cons c content ih =>
    change decodeFrom size here none (escapeChar c ++ escape content) = _
    obtain ⟨hplain, _, heq⟩ | ⟨body, heq, hc, hbody, _⟩ := escapeChar_cases c
    · have hamp : c ≠ '&' := by
        rintro rfl
        exact absurd hplain (by decide)
      rw [heq, List.singleton_append, decodeFrom, if_neg hamp, ih]
      rfl
    · have hopen : predefined? ((⟨here, []⟩ : OpenReference).body ++ body) = some c := hc
      obtain ⟨next, hnext⟩ := decodeFrom_reference hbody hopen size (here + 1) (escape content)
      rw [heq, List.append_assoc, List.cons_append, decodeFrom, if_pos rfl, List.singleton_append, hnext, ih]
      rfl

theorem decodeValue_escape (content : List Char) : decodeValue (escape content) = .ok content :=
  decodeFrom_escape _ _ content

namespace Assembly

variable {a b : Assembly} {cs rest : List Char} {event : Event}

theorem read_nil (a : Assembly) : a.read [] = a.finish := by
  rw [read]
  rfl

theorem read_step (h : nextEvent cs = some (.ok (event, rest))) (hstep : a.step event = .ok b) :
    a.read cs = b.read rest := by
  rw [read]
  split
  · next hnext => exact absurd (h.symm.trans hnext) (by simp)
  · next hnext => exact absurd (h.symm.trans hnext) (by simp)
  · next other after hnext =>
    obtain ⟨rfl, rfl⟩ : event = other ∧ rest = after := by simpa using h.symm.trans hnext
    rw [hstep]

theorem addText_nil (a : Assembly) : a.addText [] = a := by
  obtain ⟨root, pending⟩ := a
  cases pending with
  | nil => rfl
  | cons current rest =>
    cases current
    simp [addText]

theorem addText_append (a : Assembly) (content more : List Char) :
    a.addText (content ++ more) = (a.addText content).addText more := by
  obtain ⟨root, pending⟩ := a
  cases pending <;> simp [addText, String.append_assoc]

theorem nextEvent_plain {c : Char} (hc : isPlain c = true) (cs : List Char) :
    nextEvent (c :: cs) = some (.ok (.text (c :: cs.takeWhile isPlain), cs.dropWhile isPlain)) := by
  simp only [isPlain, Bool.and_eq_true, bne_iff_ne] at hc
  rw [nextEvent, if_neg hc.1, if_neg hc.2]

theorem read_plain {c : Char} (hc : isPlain c = true) (a : Assembly) (cs : List Char) :
    a.read (c :: cs) = (a.addText [c]).read cs := by
  rw [read_step (nextEvent_plain hc cs) rfl]
  cases cs with
  | nil => rfl
  | cons d ds =>
    cases hd : isPlain d with
    | false => simp [hd]
    | true =>
      rw [read_step (nextEvent_plain hd ds) rfl, ← addText_append]
      simp [hd]

theorem read_reference {body : List Char} (hbody : body.all isReferenceChar = true) (a : Assembly)
    (rest : List Char) : a.read ('&' :: body ++ ';' :: rest) = (a.addText (referenceInText body)).read rest := by
  have hcut : cutAt (fun c => c == ';' || c == '&' || c == '<') (body ++ ';' :: rest) = some (body, rest) := by
    refine cutAt_append_cons ?_ (by decide) rest
    intro d hd
    have := List.all_eq_true.mp hbody d hd
    simp only [isReferenceChar, Bool.and_eq_true, bne_iff_ne] at this
    simp [this]
  have hnext : nextEvent ('&' :: (body ++ ';' :: rest)) = some (.ok (.reference body, rest)) := by
    change some (reference (body ++ ';' :: rest)) = _
    simp [reference, hcut]
  exact read_step hnext rfl

theorem read_escape (a : Assembly) (content rest : List Char) :
    a.read (escape content ++ rest) = (a.addText content).read rest := by
  induction content generalizing a with
  | nil => rw [addText_nil]; rfl
  | cons c content ih =>
    have hone : a.read (escapeChar c ++ (escape content ++ rest)) = (a.addText [c]).read (escape content ++ rest) := by
      obtain ⟨hplain, _, heq⟩ | ⟨body, heq, hc, hbody, _⟩ := escapeChar_cases c
      · rw [heq]
        exact read_plain hplain a _
      · rw [heq, List.append_assoc, List.singleton_append, read_reference hbody, referenceInText_of_predefined? hc]
    calc
      a.read (escape (c :: content) ++ rest) = a.read (escapeChar c ++ (escape content ++ rest)) := by
        rw [escape, List.flatMap_cons, List.append_assoc]
        rfl
      _ = (a.addText [c]).read (escape content ++ rest) := hone
      _ = ((a.addText [c]).addText content).read rest := ih _
      _ = (a.addText (c :: content)).read rest := by rw [← addText_append, List.singleton_append]

end Assembly

end Introspection.Markup
