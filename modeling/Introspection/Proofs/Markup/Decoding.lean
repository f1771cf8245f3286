import Introspection.Proofs.Markup.RoundTrip
import Introspection.Proofs.Outcome

/-!
Values of attributes and running text are decoded by different means, values in one pass and text event by event, and
values are held to a stricter form. Whatever can be read as a value is read as the same text: `Decodes` is the relation
between raw and decoded content that the reader of values stays within and the reader of text follows.
-/

set_option autoImplicit false

namespace Introspection.Markup

open Text

theorem signlessNumeral?_of_strictCode {radix : Radix} {digits : List Char} {code : Nat}
    (h : strictCode radix digits = .ok code) : signlessNumeral? radix codeBound digits = some code := by
  unfold strictCode at h
  split at h
  · cases h
  · cases h
  · next hplus _ =>
    have hnumeral := mapError_eq_ok_iff.mp h
    unfold signlessNumeral?
    split
    · exact absurd rfl (hplus _)
    · rw [hnumeral]
      rfl

theorem strictCode_decimal_ne {digits : List Char} {code : Nat} : strictCode .decimal ('X' :: digits) ≠ .ok code := by
  intro h
  cases h

theorem charOfCode?_of_checked {code : Nat} {c : Char}
    (h : (if code = 0 then .error .zero
      else match charOfCode? code with
        | some d => .ok d
        | none => .error (.noCharacter code) : Except CharacterFault Char) = .ok c) : charOfCode? code = some c := by
  split at h
  · cases h
  · cases hcode : charOfCode? code with
    | none =>
      rw [hcode] at h
      cases h
    | some d =>
      rw [hcode] at h
      cases h
      rfl

theorem strictCharacter_eq_ok {digits : List Char} {c : Char} (h : strictCharacter digits = .ok c) :
    ∃ code, charOfCode? code = some c ∧
      ((∃ hex, digits = 'x' :: hex ∧ strictCode .hexadecimal hex = .ok code) ∨
        (∀ hex, digits ≠ 'x' :: hex) ∧ strictCode .decimal digits = .ok code) := by
  unfold strictCharacter at h
  dsimp only at h
  split at h
  · next hex =>
    obtain ⟨code, hcode, hchecked⟩ := bind_eq_ok_iff.mp h
    exact ⟨code, charOfCode?_of_checked hchecked, Or.inl ⟨hex, rfl, hcode⟩⟩
  · next hx =>
    obtain ⟨code, hcode, hchecked⟩ := bind_eq_ok_iff.mp h
    exact ⟨code, charOfCode?_of_checked hchecked, Or.inr ⟨hx, hcode⟩⟩

theorem characterInText?_of_value {start stop : Nat} {body : List Char} {c : Char}
    (h : characterInValue start stop body = .ok c) : characterInText? body = some c := by
  unfold characterInValue at h
  split at h
  · next digits =>
    obtain ⟨code, hc, ⟨hex, rfl, hcode⟩ | ⟨hx, hcode⟩⟩ := strictCharacter_eq_ok (mapError_eq_ok_iff.mp h)
    · rw [characterInText?, signlessNumeral?_of_strictCode hcode, Option.bind_some, hc]
    · unfold characterInText?
      split
      · next heq => exact absurd (List.cons.inj heq).2 (hx _)
      · next heq =>
        rw [(List.cons.inj heq).2] at hcode
        exact absurd hcode strictCode_decimal_ne
      · next heq => rw [← (List.cons.inj heq).2, signlessNumeral?_of_strictCode hcode, Option.bind_some, hc]
      · next hnone => exact absurd rfl (hnone _)
  · next hnumber =>
    cases hpredefined : predefined? body with
    | none => rw [hpredefined] at h; cases h
    | some d =>
      rw [hpredefined] at h
      cases h
      unfold characterInText?
      split
      · exact absurd rfl (hnumber _)
      · exact absurd rfl (hnumber _)
      · exact absurd rfl (hnumber _)
      · exact hpredefined

/-- Raw content and what it stands for, reference by reference. -/
inductive Decodes : List Char → List Char → Prop where
  | nil : Decodes [] []
  | plain {c : Char} {cs value : List Char} (hc : c ≠ '&') (h : Decodes cs value) : Decodes (c :: cs) (c :: value)
  | reference {body cs value : List Char} {c : Char} (hbody : ∀ d ∈ body, d ≠ ';' ∧ d ≠ '&')
      (hc : characterInText? body = some c) (h : Decodes cs value) :
      Decodes ('&' :: body ++ ';' :: cs) (c :: value)

/-- The part of the content that was read as the beginning of a reference. -/
def openText : Option OpenReference → List Char
  | none => []
  | some pending => '&' :: pending.body

theorem decodeFrom_cons_none {size here : Nat} {c : Char} {cs value : List Char}
    (h : decodeFrom size here none (c :: cs) = .ok value) :
    (c = '&' ∧ decodeFrom size (here + 1) (some ⟨here, []⟩) cs = .ok value) ∨
    (c ≠ '&' ∧ ∃ rest, decodeFrom size (here + c.utf8Size) none cs = .ok rest ∧ value = c :: rest) := by
  rw [decodeFrom] at h
  split at h
  · next hc => exact Or.inl ⟨hc, h⟩
  · next hc =>
    obtain ⟨rest, hrest, rfl⟩ := map_eq_ok_iff.mp h
    exact Or.inr ⟨hc, rest, hrest, rfl⟩

theorem decodeFrom_cons_some {size here : Nat} {pending : OpenReference} {c : Char} {cs value : List Char}
    (h : decodeFrom size here (some pending) (c :: cs) = .ok value) :
    (c = ';' ∧ ∃ character rest, characterInValue (pending.start + 1) here pending.body = .ok character ∧
      decodeFrom size (here + 1) none cs = .ok rest ∧ value = character :: rest) ∨
    (c ≠ ';' ∧ c ≠ '&' ∧
      decodeFrom size (here + c.utf8Size) (some { pending with body := pending.body ++ [c] }) cs = .ok value) := by
  rw [decodeFrom] at h
  split at h
  · cases h
  · next hamp =>
    split at h
    · next hc =>
      obtain ⟨character, hcharacter, hafter⟩ := bind_eq_ok_iff.mp h
      obtain ⟨rest, hrest, hvalue⟩ := bind_eq_ok_iff.mp hafter
      exact Or.inl ⟨hc, character, rest, hcharacter, hrest, (Except.ok.inj hvalue).symm⟩
    · next hc => exact Or.inr ⟨hc, hamp, h⟩

theorem decodes_of_decodeFrom {size here : Nat} {pending : Option OpenReference} {cs value : List Char}
    (hopen : ∀ d ∈ (openText pending).tail, d ≠ ';' ∧ d ≠ '&') (h : decodeFrom size here pending cs = .ok value) :
    Decodes (openText pending ++ cs) value := by
  induction cs generalizing here pending value with
  | nil =>
    cases pending with
    | none =>
      cases h
      exact .nil
    | some pending => cases h
  | cons c cs ih =>
    cases pending with
    | none =>
      obtain ⟨rfl, hrest⟩ | ⟨hc, rest, hrest, rfl⟩ := decodeFrom_cons_none h
      · have hempty : ∀ d ∈ (openText (some ⟨here, []⟩)).tail, d ≠ ';' ∧ d ≠ '&' := by simp [openText]
        exact ih hempty hrest
      · exact .plain hc (ih hopen hrest)
    | some pending =>
      obtain ⟨rfl, character, rest, hcharacter, hrest, rfl⟩ | ⟨hsemicolon, hampersand, hrest⟩ := decodeFrom_cons_some h
      · exact .reference hopen (characterInText?_of_value hcharacter) (ih (by simp [openText]) hrest)
      · have hlonger : ∀ d ∈ (openText (some { pending with body := pending.body ++ [c] })).tail,
            d ≠ ';' ∧ d ≠ '&' := by
          intro d hd
          obtain hd | hd := List.mem_append.mp hd
          · exact hopen d hd
          · rw [List.mem_singleton.mp hd]
            exact ⟨hsemicolon, hampersand⟩
        have hdecodes := ih hlonger hrest
        simpa [openText] using hdecodes

theorem decodes_of_decodeValue {raw value : List Char} (h : decodeValue raw = .ok value) : Decodes raw value :=
  decodes_of_decodeFrom (by simp [openText]) h

namespace Assembly

theorem read_decodes {cs value : List Char} (h : Decodes cs value) (hless : '<' ∉ cs) (a : Assembly)
    (rest : List Char) : a.read (cs ++ rest) = (a.addText value).read rest := by
  induction h generalizing a with
  | nil => rw [addText_nil, List.nil_append]
  | @plain c cs value hc _ ih =>
    rw [List.mem_cons, not_or] at hless
    have hplain : isPlain c = true := by simp [isPlain, hc, Ne.symm hless.1]
    rw [List.cons_append, read_plain hplain, ih hless.2, ← addText_append, List.singleton_append]
  | @reference body cs value c hbody hc _ ih =>
    rw [List.mem_append, List.mem_cons, List.mem_cons, not_or, not_or, not_or] at hless
    have hall : body.all isReferenceChar = true := by
      rw [List.all_eq_true]
      intro d hd
      have hd' : d ≠ '<' := by
        rintro rfl
        exact hless.1.2 hd
      simp [isReferenceChar, hbody d hd, hd']
    have hcharacter : referenceInText body = [c] := by rw [referenceInText, hc]
    have happend : '&' :: body ++ ';' :: cs ++ rest = '&' :: body ++ ';' :: (cs ++ rest) := by simp
    rw [happend, read_reference hall, hcharacter, ih hless.2.2, ← addText_append, List.singleton_append]

theorem read_fault {a : Assembly} {cs rest : List Char} {event : Event} {fault : DocumentFault}
    (h : nextEvent cs = some (.ok (event, rest))) (hstep : a.step event = .error fault) : a.read cs = .error fault := by
  rw [read]
  split
  · next hnext => exact absurd (h.symm.trans hnext) (by simp)
  · next hnext => exact absurd (h.symm.trans hnext) (by simp)
  · next other after hnext =>
    obtain ⟨rfl, rfl⟩ : event = other ∧ rest = after := by simpa using h.symm.trans hnext
    rw [hstep]

end Assembly

variable (name key : QualifiedName) {raw : List Char}

theorem nextEvent_quotedAttribute (hraw : '"' ∉ raw) (rest : List Char) :
    nextEvent ('<' :: name.written ++ quotedAttribute key raw ++ '/' :: '>' :: rest) =
      some (.ok (.whole ⟨name.written, quotedAttribute key raw⟩, rest)) := by
  have hinside : InsideTag (name.written ++ quotedAttribute key raw ++ ['/']) :=
    (name.insideTag_written.append (insideTag_quotedAttribute key hraw)).append (.single (by decide) (by decide))
  have hbody := hinside.tagBody_eq rest
  have htag : Tag.ofBody (name.written ++ quotedAttribute key raw) = ⟨name.written, quotedAttribute key raw⟩ := by
    have hname : ∀ c ∈ name.written, (!isSpace c) = true := by
      intro c hc
      simp [QualifiedName.isSpace_of_mem_written hc]
    have hblank : isSpace ' ' = true := by decide
    rw [Tag.ofBody, List.takeWhile_append_of_pos hname, List.dropWhile_append_of_pos hname]
    simp [quotedAttribute, hblank]
  have htext : '<' :: name.written ++ quotedAttribute key raw ++ '/' :: '>' :: rest =
      '<' :: (name.written ++ (quotedAttribute key raw ++ '/' :: '>' :: rest)) := by simp
  rw [htext, nextEvent, if_pos rfl, name.markup_written, opening]
  have hsame : name.written ++ (quotedAttribute key raw ++ '/' :: '>' :: rest) =
      name.written ++ quotedAttribute key raw ++ ['/'] ++ '>' :: rest := by simp
  rw [hsame, hbody]
  simp [Except.map, openingEvent, htag]

def elementWith (value : List Char) : Element where
  name := String.ofList name.base.chars
  qualifiedName := String.ofList name.written
  attributes := [(String.ofList key.base.chars, String.ofList value)]

theorem ofTag_quotedAttribute (hraw : '"' ∉ raw) :
    Element.ofTag ⟨name.written, quotedAttribute key raw⟩ = (decodeValue raw).map (elementWith name key) := by
  have hscan : scanAttributes [] (quotedAttribute key raw) = [⟨key.written, raw⟩] := by
    have h : scanAttributes [] (quotedAttribute key raw ++ []) = _ := scanAttributes_quotedAttribute (by simp) hraw []
    rwa [List.append_nil, scanAttributes_nil] at h
  rw [Element.ofTag, hscan]
  cases hvalue : decodeValue raw with
  | error fault => simp [attributeOfRaw, hvalue, Except.map, bind, Except.bind]
  | ok value =>
    simp [attributeOfRaw, hvalue, Except.map, bind, Except.bind, pure, Except.pure, elementWith,
      QualifiedName.localName_written]

theorem read_quotedAttribute (hraw : '"' ∉ raw) :
    ({} : Assembly).read ('<' :: name.written ++ quotedAttribute key raw ++ ['/', '>']) =
      match decodeValue raw with
      | .ok value => .ok (elementWith name key value)
      | .error fault => .error (.escape fault) := by
  have hevent := nextEvent_quotedAttribute name key hraw []
  have htag := ofTag_quotedAttribute name key hraw
  cases hvalue : decodeValue raw with
  | error fault =>
    rw [hvalue] at htag
    exact Assembly.read_fault hevent (by rw [Assembly.step, htag]; rfl)
  | ok value =>
    rw [hvalue] at htag
    rw [Assembly.read_step hevent (by rw [Assembly.step, htag]; rfl), Assembly.read_nil]
    rfl

theorem read_content {value : List Char} (h : Decodes raw value) (hless : '<' ∉ raw) :
    ({} : Assembly).read ('<' :: name.written ++ '>' :: raw ++ '<' :: '/' :: name.written ++ ['>']) =
      .ok { name := String.ofList name.base.chars, qualifiedName := String.ofList name.written
            text := trim (String.ofList value) } := by
  have hchars : '<' :: name.written ++ '>' :: raw ++ '<' :: '/' :: name.written ++ ['>'] =
      '<' :: ({ name } : Heading).chars ++ '>' :: (raw ++ ('<' :: '/' :: name.written ++ ['>'])) := by
    simp [Heading.chars]
  rw [hchars, Assembly.read_start, Assembly.read_decodes h hless, Assembly.addText, Assembly.read_close _ rfl,
    Assembly.read_nil]
  simp [Heading.toElement, Assembly.attach, Assembly.finish]

/-- A text without angle brackets and quotes that can be read as the value of an attribute is read as the same text
    between tags, where only the blanks at its ends are lost. -/
theorem readDocument_text_of_value (s : String) (hless : '<' ∉ s.toList) (hquote : '"' ∉ s.toList) (e : Element)
    (h : readDocument ("<a v=\"" ++ s ++ "\"/>") = .ok e) :
    ∃ value, e.attribute? "v" = some value ∧
      readDocument ("<a>" ++ s ++ "</a>") = .ok { Element.named "a" with text := trim value } := by
  let name : QualifiedName := { base := ⟨['a'], by decide⟩ }
  let key : QualifiedName := { base := ⟨['v'], by decide⟩ }
  have hvalue : withoutMark ("<a v=\"" ++ s ++ "\"/>").toList =
      '<' :: name.written ++ quotedAttribute key s.toList ++ ['/', '>'] := by
    simp [withoutMark, name, key, QualifiedName.written, quotedAttribute]
  have hcontent : withoutMark ("<a>" ++ s ++ "</a>").toList =
      '<' :: name.written ++ '>' :: s.toList ++ '<' :: '/' :: name.written ++ ['>'] := by
    simp [withoutMark, name, QualifiedName.written]
  rw [readDocument, hvalue, read_quotedAttribute name key hquote] at h
  cases hdecoded : decodeValue s.toList with
  | error fault =>
    rw [hdecoded] at h
    cases h
  | ok value =>
    rw [hdecoded] at h
    cases h
    refine ⟨String.ofList value, rfl, ?_⟩
    rw [readDocument, hcontent, read_content name (decodes_of_decodeValue hdecoded) hless]
    rfl

theorem readDocument_text_of_value_references :
    let s := "\t&#x41;&lt;&#0038;lt; "
    '<' ∉ s.toList ∧ '"' ∉ s.toList ∧ ∃ e, readDocument ("<a v=\"" ++ s ++ "\"/>") = .ok e ∧
      e.attribute? "v" = some "\tA<&lt; " ∧
      readDocument ("<a>" ++ s ++ "</a>") = .ok { Element.named "a" with text := "A<&lt;" } := by
  intro s
  have hless : '<' ∉ s.toList := by decide
  have hquote : '"' ∉ s.toList := by decide
  have hread : (readDocument ("<a v=\"" ++ s ++ "\"/>")).toOption.bind (fun e => e.attribute? "v") =
      some "\tA<&lt; " := by decide +kernel
  cases h : readDocument ("<a v=\"" ++ s ++ "\"/>") with
  | error fault =>
    rw [h] at hread
    cases hread
  | ok e =>
    rw [h] at hread
    obtain ⟨value, hvalue, htext⟩ := readDocument_text_of_value s hless hquote e h
    obtain rfl : value = "\tA<&lt; " := Option.some.inj (hvalue.symm.trans hread)
    have htrimmed : trim "\tA<&lt; " = "A<&lt;" := by decide
    exact ⟨hless, hquote, e, rfl, hread, htrimmed ▸ htext⟩

end Introspection.Markup
