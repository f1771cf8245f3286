import Introspection.Proofs.Markup.Reading

set_option autoImplicit false

namespace Introspection.Text

theorem splitFirst_singleton (c : Char) (cs : List Char) : splitFirst [c] cs = cutAt (· == c) cs := by
  induction cs with
  | nil => rfl
  | cons d cs ih =>
    have hfirst : [c].isPrefixOf? (d :: cs) = if c == d then some cs else none := rfl
    rw [splitFirst, cutAt, ih, hfirst]
    by_cases h : d = c
    · simp [h]
    · simp [h, Ne.symm h]

end Introspection.Text

namespace Introspection.Markup

open Text

theorem PlainName.isNameChar_of_mem (n : PlainName) {c : Char} (hc : c ∈ n.chars) : isNameChar c = true := by
  obtain ⟨chars, hvalid⟩ := n
  cases chars with
  | nil => cases hc
  | cons first others =>
    rw [isPlainName, Bool.and_eq_true] at hvalid
    obtain rfl | hother := List.mem_cons.mp hc
    · simp [isNameChar, hvalid.1]
    · exact List.all_eq_true.mp hvalid.2 c hother

theorem PlainName.exists_eq_cons (n : PlainName) : ∃ c cs, n.chars = c :: cs ∧ isNameStart c = true := by
  obtain ⟨chars, hvalid⟩ := n
  cases chars with
  | nil => cases hvalid
  | cons first others =>
    rw [isPlainName, Bool.and_eq_true] at hvalid
    exact ⟨first, others, rfl, hvalid.1⟩

theorem PlainName.colon_not_mem (n : PlainName) : ':' ∉ n.chars :=
  fun hmem => absurd (n.isNameChar_of_mem hmem) (by decide)

namespace QualifiedName

theorem exists_written_eq_cons (n : QualifiedName) : ∃ c cs, n.written = c :: cs ∧ isNameStart c = true := by
  obtain ⟨space, base⟩ := n
  cases space with
  | none => exact base.exists_eq_cons
  | some space =>
    obtain ⟨c, cs, hchars, hc⟩ := space.exists_eq_cons
    exact ⟨c, cs ++ ':' :: base.chars, by simp [written, hchars], hc⟩

theorem ne_of_mem_written {n : QualifiedName} {c : Char} (hc : c ∈ n.written) (mark : Char)
    (hmark : isNameChar mark = false ∧ mark ≠ ':') : c ≠ mark := by
  rintro rfl
  have hplain : ∀ plain : PlainName, c ∉ plain.chars := fun plain hmem =>
    Bool.eq_false_iff.mp hmark.1 (plain.isNameChar_of_mem hmem)
  obtain ⟨space, base⟩ := n
  cases space with
  | none => exact hplain base hc
  | some space =>
    obtain hspace | hrest := List.mem_append.mp hc
    · exact hplain space hspace
    · obtain hcolon | hbase := List.mem_cons.mp hrest
      · exact hmark.2 hcolon
      · exact hplain base hbase

theorem isSpace_of_mem_written {n : QualifiedName} {c : Char} (hc : c ∈ n.written) : isSpace c = false := by
  simp [isSpace, ne_of_mem_written hc ' ' (by decide), ne_of_mem_written hc '\t' (by decide),
    ne_of_mem_written hc '\r' (by decide), ne_of_mem_written hc '\n' (by decide)]

theorem isQuote_of_mem_written {n : QualifiedName} {c : Char} (hc : c ∈ n.written) : isQuote c = false := by
  simp [isQuote, ne_of_mem_written hc '"' (by decide), ne_of_mem_written hc '\'' (by decide)]

theorem localName_written (n : QualifiedName) :
    localName (String.ofList n.written) = String.ofList n.base.chars := by
  have hapart (plain : PlainName) : ∀ c ∈ plain.chars, (c == ':') = false := by
    intro c hc
    rw [beq_eq_false_iff_ne]
    rintro rfl
    exact plain.colon_not_mem hc
  obtain ⟨space, base⟩ := n
  cases space with
  | none => simp [localName, written, splitFirst_singleton, cutAt_eq_none_iff.mpr (hapart base)]
  | some space =>
    simp [localName, written, splitFirst_singleton, cutAt_append_cons (hapart space)]

theorem closingName_written (n : QualifiedName) : closingName n.written = n.written := by
  obtain ⟨c, cs, hwritten, _⟩ := n.exists_written_eq_cons
  have hc : isSpace c = false := isSpace_of_mem_written (n := n) (by simp [hwritten])
  have hall : n.written.all isSpace = false := by simp [hwritten, hc]
  have hkept : n.written.reverse.dropWhile isSpace = n.written.reverse := by
    cases hreverse : n.written.reverse with
    | nil => rfl
    | cons d ds =>
      have hd : isSpace d = false := isSpace_of_mem_written (n := n) (List.mem_reverse.mp (by simp [hreverse]))
      simp [hd]
  simp [closingName, hall, hkept]

end QualifiedName

/-- The end of a tag is not looked for in these characters. -/
def InsideTag (cs : List Char) : Prop :=
  ∀ rest body after, tagBody none rest = .ok (body, after) → tagBody none (cs ++ rest) = .ok (cs ++ body, after)

namespace InsideTag

theorem nil : InsideTag [] := fun _ _ _ h => h

theorem append {cs ds : List Char} (hcs : InsideTag cs) (hds : InsideTag ds) : InsideTag (cs ++ ds) := by
  intro rest body after h
  rw [List.append_assoc, List.append_assoc]
  exact hcs _ _ _ (hds _ _ _ h)

theorem single {c : Char} (hquote : isQuote c = false) (hend : c ≠ '>') : InsideTag [c] := by
  intro rest body after h
  simp [tagBody, hquote, hend, h, Except.map]

theorem of_forall {cs : List Char} (h : ∀ c ∈ cs, isQuote c = false ∧ c ≠ '>') : InsideTag cs := by
  induction cs with
  | nil => exact nil
  | cons c cs ih =>
    obtain ⟨⟨hquote, hend⟩, hcs⟩ := List.forall_mem_cons.mp h
    exact (single hquote hend).append (ih hcs)

theorem quoted {q : Char} (hq : isQuote q = true) {value : List Char} (hvalue : q ∉ value) :
    InsideTag (q :: value ++ [q]) := by
  intro rest body after h
  have hrest : ∀ value, q ∉ value → tagBody (some q) (value ++ q :: rest) = .ok (value ++ q :: body, after) := by
    intro value hvalue
    induction value with
    | nil => simp [tagBody, h, Except.map]
    | cons c value ih =>
      rw [List.mem_cons, not_or] at hvalue
      simp [tagBody, Ne.symm hvalue.1, ih hvalue.2, Except.map]
  have hend : q ≠ '>' := by
    rintro rfl
    exact absurd hq (by decide)
  simp [tagBody, hend, hq, hrest value hvalue, Except.map]

theorem tagBody_eq {cs : List Char} (h : InsideTag cs) (rest : List Char) :
    tagBody none (cs ++ '>' :: rest) = .ok (cs, rest) := by
  have := h ('>' :: rest) [] rest (by simp [tagBody])
  rwa [List.append_nil] at this

end InsideTag

theorem QualifiedName.insideTag_written (n : QualifiedName) : InsideTag n.written :=
  .of_forall fun _ hc => ⟨isQuote_of_mem_written hc, ne_of_mem_written hc '>' (by decide)⟩

def quotedAttribute (key : QualifiedName) (raw : List Char) : List Char :=
  ' ' :: key.written ++ '=' :: '"' :: raw ++ ['"']

theorem insideTag_quotedAttribute (key : QualifiedName) {raw : List Char} (hraw : '"' ∉ raw) :
    InsideTag (quotedAttribute key raw) := by
  have hvalue : InsideTag ('"' :: raw ++ ['"']) := .quoted (by decide) hraw
  have hequals : InsideTag ['='] := .single (by decide) (by decide)
  have hspace : InsideTag [' '] := .single (by decide) (by decide)
  simpa [quotedAttribute] using hspace.append (key.insideTag_written.append (hequals.append hvalue))

theorem insideTag_attributeChars (entry : QualifiedName × String) : InsideTag (attributeChars entry) :=
  insideTag_quotedAttribute entry.1 (quote_not_mem_escape _)

theorem Heading.insideTag_chars (h : Heading) : InsideTag h.chars := by
  refine h.name.insideTag_written.append ?_
  induction h.attributes with
  | nil => exact .nil
  | cons entry attributes ih => exact (insideTag_attributeChars entry).append ih

theorem readKey_written (n : QualifiedName) (rest : List Char) :
    readKey (n.written ++ '=' :: rest) = .keyed n.written rest := by
  have hkey : ∀ c ∈ n.written, (!endsKey c) = true := by
    intro c hc
    simp [endsKey, QualifiedName.isSpace_of_mem_written hc,
      QualifiedName.ne_of_mem_written hc '=' (by decide)]
  obtain ⟨c, cs, hwritten, _⟩ := n.exists_written_eq_cons
  rw [hwritten] at hkey ⊢
  have hcs := (List.forall_mem_cons.mp hkey).2
  have hstop : endsKey '=' = true := by decide
  have hspace : skipSpace ('=' :: rest) = '=' :: rest := by simp [skipSpace, isSpace]
  rw [List.cons_append, readKey, List.dropWhile_append_of_pos hcs, List.takeWhile_append_of_pos hcs]
  simp [hstop, hspace]

theorem readValue_quoted {value : List Char} (hvalue : '"' ∉ value) (rest : List Char) :
    readValue ('"' :: value ++ '"' :: rest) = .quoted value rest := by
  have hcut : cutAt (· == '"') (value ++ '"' :: rest) = some (value, rest) := by
    refine cutAt_append_cons ?_ (by decide) rest
    intro c hc
    rw [beq_eq_false_iff_ne]
    rintro rfl
    exact hvalue hc
  have hspace : skipSpace ('"' :: (value ++ '"' :: rest)) = '"' :: (value ++ '"' :: rest) := by
    simp [skipSpace, isSpace]
  simp [readValue, hspace, isQuote, hcut]

theorem scanAttributes_nil (known : List (List Char)) : scanAttributes known [] = [] := by
  rw [scanAttributes]
  rfl

theorem scanAttributes_of_quoted {known : List (List Char)} {cs key afterEquals value rest : List Char}
    (hkey : readKey (skipSpace cs) = .keyed key afterEquals) (hnew : key ∉ known)
    (hvalue : readValue afterEquals = .quoted value rest) :
    scanAttributes known cs = ⟨key, value⟩ :: scanAttributes (key :: known) rest := by
  rw [scanAttributes]
  split
  · next h => cases hkey.symm.trans h
  · next h => cases hkey.symm.trans h
  · next h =>
    cases hkey.symm.trans h
    rw [if_neg hnew]
    split
    · next h => cases hvalue.symm.trans h
    · next h => cases hvalue.symm.trans h
    · next h =>
      cases hvalue.symm.trans h
      rfl

theorem scanAttributes_quotedAttribute {known : List (List Char)} {key : QualifiedName} {raw : List Char}
    (hnew : key.written ∉ known) (hraw : '"' ∉ raw) (rest : List Char) :
    scanAttributes known (quotedAttribute key raw ++ rest) =
      ⟨key.written, raw⟩ :: scanAttributes (key.written :: known) rest := by
  refine scanAttributes_of_quoted ?_ hnew (readValue_quoted hraw rest)
  have hspace : skipSpace (quotedAttribute key raw ++ rest) = key.written ++ '=' :: ('"' :: raw ++ '"' :: rest) := by
    obtain ⟨c, cs, hwritten, _⟩ := key.exists_written_eq_cons
    have hc : isSpace c = false := QualifiedName.isSpace_of_mem_written (n := key) (by simp [hwritten])
    have hblank : isSpace ' ' = true := by decide
    simp [quotedAttribute, skipSpace, hwritten, hc, hblank]
  rw [hspace, readKey_written]

theorem scanAttributes_attributeChars {known : List (List Char)} {entry : QualifiedName × String}
    (hnew : entry.1.written ∉ known) (rest : List Char) :
    scanAttributes known (attributeChars entry ++ rest) =
      ⟨entry.1.written, escape entry.2.toList⟩ :: scanAttributes (entry.1.written :: known) rest :=
  scanAttributes_quotedAttribute hnew (quote_not_mem_escape _) rest

theorem scanAttributes_flatMap {attributes : List (QualifiedName × String)} {known : List (List Char)}
    (hdistinct : (attributes.map fun entry => entry.1.written).Nodup)
    (hnew : ∀ entry ∈ attributes, entry.1.written ∉ known) :
    scanAttributes known (attributes.flatMap attributeChars) =
      attributes.map fun entry => ⟨entry.1.written, escape entry.2.toList⟩ := by
  induction attributes generalizing known with
  | nil => exact scanAttributes_nil known
  | cons entry attributes ih =>
    obtain ⟨hentry, hnew⟩ := List.forall_mem_cons.mp hnew
    rw [List.map_cons, List.nodup_cons] at hdistinct
    rw [List.flatMap_cons, scanAttributes_attributeChars hentry, ih hdistinct.2, List.map_cons]
    intro other hother hmem
    obtain heq | hknown := List.mem_cons.mp hmem
    · exact hdistinct.1 (List.mem_map.mpr ⟨other, hother, heq⟩)
    · exact hnew other hother hknown

theorem attributeOfRaw_escape (entry : QualifiedName × String) :
    attributeOfRaw ⟨entry.1.written, escape entry.2.toList⟩ = .ok (String.ofList entry.1.base.chars, entry.2) := by
  simp [attributeOfRaw, decodeValue_escape, Except.map, QualifiedName.localName_written]

theorem QualifiedName.markup_written (n : QualifiedName) (rest : List Char) :
    markup (n.written ++ rest) = opening (n.written ++ rest) := by
  obtain ⟨c, cs, hwritten, hstart⟩ := n.exists_written_eq_cons
  have hne : ∀ mark, isNameStart mark = false → c ≠ mark := by
    rintro _ hmark rfl
    exact Bool.eq_false_iff.mp hmark hstart
  rw [hwritten, List.cons_append, markup, if_neg (hne '!' (by decide)), if_neg (hne '?' (by decide)),
    if_neg (hne '/' (by decide))]

namespace Heading

def tag (h : Heading) : Tag := ⟨h.name.written, h.attributes.flatMap attributeChars⟩

theorem ofTag_tag (h : Heading) : Element.ofTag h.tag = .ok h.toElement := by
  have hattributes : (scanAttributes [] h.tag.attributeText).mapM attributeOfRaw = .ok h.toElement.attributes := by
    rw [tag, scanAttributes_flatMap h.distinct (by simp), List.mapM_map]
    simp only [Function.comp_def, attributeOfRaw_escape]
    exact List.mapM_pure
  rw [Element.ofTag, hattributes]
  simp [tag, toElement, QualifiedName.localName_written, bind, Except.bind, pure, Except.pure]

theorem ofBody_chars (h : Heading) : Tag.ofBody h.chars = h.tag := by
  have hname : ∀ c ∈ h.name.written, (!isSpace c) = true := by
    intro c hc
    simp [QualifiedName.isSpace_of_mem_written hc]
  rw [Tag.ofBody, chars, List.takeWhile_append_of_pos hname, List.dropWhile_append_of_pos hname, tag]
  cases h.attributes with
  | nil => simp
  | cons entry attributes =>
    have hblank : isSpace ' ' = true := by decide
    simp [attributeChars, hblank]

theorem getLast?_chars_ne (h : Heading) : h.chars.getLast? ≠ some '/' := by
  obtain hnil | ⟨attributes, entry, hconcat⟩ := h.attributes.eq_nil_or_concat
  · intro hlast
    rw [chars, hnil, List.flatMap_nil, List.append_nil] at hlast
    exact QualifiedName.ne_of_mem_written (List.mem_of_getLast? hlast) '/' (by decide) rfl
  · rw [chars, hconcat, List.concat_eq_append, List.flatMap_append, List.flatMap_singleton, attributeChars,
      ← List.append_assoc, ← List.append_assoc, List.getLast?_concat]
    decide

theorem markup_chars (h : Heading) (rest : List Char) : markup (h.chars ++ rest) = opening (h.chars ++ rest) := by
  rw [chars, List.append_assoc, h.name.markup_written]

theorem nextEvent_start (h : Heading) (rest : List Char) :
    nextEvent ('<' :: h.chars ++ '>' :: rest) = some (.ok (.start h.tag, rest)) := by
  rw [List.cons_append, nextEvent, if_pos rfl, markup_chars, opening, h.insideTag_chars.tagBody_eq]
  simp [Except.map, openingEvent, h.getLast?_chars_ne, h.ofBody_chars]

theorem nextEvent_whole (h : Heading) (rest : List Char) :
    nextEvent ('<' :: h.chars ++ '/' :: '>' :: rest) = some (.ok (.whole h.tag, rest)) := by
  have hinside : InsideTag (h.chars ++ ['/']) := h.insideTag_chars.append (.single (by decide) (by decide))
  have hbody : tagBody none (h.chars ++ '/' :: '>' :: rest) = .ok (h.chars ++ ['/'], rest) := by
    simpa using hinside.tagBody_eq rest
  rw [List.cons_append, nextEvent, if_pos rfl, markup_chars, opening, hbody]
  simp [Except.map, openingEvent, h.ofBody_chars]

end Heading

theorem QualifiedName.nextEvent_close (n : QualifiedName) (rest : List Char) :
    nextEvent ('<' :: '/' :: n.written ++ '>' :: rest) = some (.ok (.close n.written, rest)) := by
  change some (closing (n.written ++ '>' :: rest)) = _
  rw [closing, n.insideTag_written.tagBody_eq]
  simp [Except.map, closingEvent, n.closingName_written]

end Introspection.Markup
