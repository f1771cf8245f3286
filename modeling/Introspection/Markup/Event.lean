import Introspection.Markup.Attribute
import Introspection.Markup.Fault

/-!
A document as a sequence of events, each cut from the front of the text that is left. The main statement,
`nextEvent_length_lt`, says that every event takes something away, so that reading a document ends.
-/

set_option autoImplicit false

namespace Introspection.Markup

open Text

structure Tag where
  qualifiedName : List Char
  attributeText : List Char
deriving DecidableEq, Repr

inductive Event where
  | text (content : List Char)
  | reference (body : List Char)
  | start (tag : Tag)
  | whole (tag : Tag)
  | close (qualifiedName : List Char)
  /-- A comment, an instruction or a declaration. -/
  | silent
deriving DecidableEq, Repr

abbrev Cut := Except SyntaxFault (Event × List Char)

/-- Cuts at the first `>` outside quotes. -/
def tagBody : (quote : Option Char) → List Char → Except SyntaxFault (List Char × List Char)
  | none, [] => .error .openTag
  | some q, [] => .error (.openQuote q)
  | none, c :: cs =>
    if c = '>' then .ok ([], cs)
    else (tagBody (if isQuote c then some c else none) cs).map fun (body, rest) => (c :: body, rest)
  | some q, c :: cs =>
    (tagBody (if c = q then none else some q) cs).map fun (body, rest) => (c :: body, rest)

/-- The name of a tag ends at the first space. -/
def Tag.ofBody (body : List Char) : Tag :=
  ⟨body.takeWhile fun c => !isSpace c, body.dropWhile fun c => !isSpace c⟩

def openingEvent (body : List Char) : Event :=
  if body.getLast? = some '/' then .whole (.ofBody body.dropLast) else .start (.ofBody body)

/-- The name in a closing tag loses the spaces at its end, unless it has nothing else. -/
def closingName (body : List Char) : List Char :=
  if body.all isSpace then body else (body.reverse.dropWhile isSpace).reverse

def closingEvent (body : List Char) : Event := .close (closingName body)

def opening (cs : List Char) : Cut := (tagBody none cs).map fun (body, rest) => (openingEvent body, rest)

def closing (cs : List Char) : Cut := (tagBody none cs).map fun (body, rest) => (closingEvent body, rest)

def upTo (mark : String) (fault : SyntaxFault) (event : List Char → Event) (cs : List Char) : Cut :=
  match splitFirst mark.toList cs with
  | some (content, rest) => .ok (event content, rest)
  | none => .error fault

def comment (cs : List Char) : Cut :=
  match "--".toList.isPrefixOf? cs with
  | some rest => upTo "-->" .openComment (fun _ => .silent) rest
  | none => .error .openComment

def characterSection (cs : List Char) : Cut :=
  match "[CDATA[".toList.isPrefixOf? cs with
  | some rest => upTo "]]>" .openSection .text rest
  | none => .error .openSection

/-- Whether an instruction that does not end would have been the XML declaration. -/
def beginsDeclaration (cs : List Char) : Bool :=
  match "xml".toList.isPrefixOf? cs with
  | some [] => true
  | some (c :: _) => isSpace c || c == '?'
  | none => false

def instruction (cs : List Char) : Cut :=
  let fault := if beginsDeclaration cs then SyntaxFault.openDeclaration else .openInstruction
  if cs.head? = some '>' then .error fault else upTo "?>" fault (fun _ => .silent) cs

/-- Declarations of an internal subset in which a quoted `>` does not end the declaration. -/
def quotingDeclarations : List String := ["!ENTITY", "!ATTLIST", "!NOTATION"]

def subsetMarkup (cs : List Char) : Option (List Char) :=
  match "!--".toList.isPrefixOf? cs with
  | some rest => (splitFirst "-->".toList rest).map Prod.snd
  | none =>
    match "?".toList.isPrefixOf? cs with
    | some rest => (splitFirst "?>".toList rest).map Prod.snd
    | none =>
      if quotingDeclarations.any fun word => word.toList.isPrefixOf cs then
        (tagBody none cs).toOption.map Prod.snd
      else (cutAt (· == '>') cs).map Prod.snd

theorem tagBody_length_lt {quote : Option Char} {cs body rest : List Char}
    (h : tagBody quote cs = .ok (body, rest)) : rest.length < cs.length := by
  induction cs generalizing quote body rest with
  | nil => cases quote <;> simp [tagBody] at h
  | cons c cs ih =>
    have hstep : ∀ quote', (tagBody quote' cs).map (fun (body, rest) => (c :: body, rest)) = .ok (body, rest) →
        rest.length < (c :: cs).length := by
      intro quote' hmap
      cases htail : tagBody quote' cs with
      | error fault => simp [htail, Except.map] at hmap
      | ok pair =>
        simp only [htail, Except.map, Except.ok.injEq, Prod.mk.injEq] at hmap
        have := @ih _ pair.1 pair.2 htail
        simp only [List.length_cons, ← hmap.2]
        omega
    cases quote with
    | none =>
      simp only [tagBody] at h
      split at h
      · simp only [Except.ok.injEq, Prod.mk.injEq] at h
        simp [h.2]
      · exact hstep _ h
    | some q => exact hstep _ h

theorem isPrefixOf?_length_le {beginning cs rest : List Char} (h : beginning.isPrefixOf? cs = some rest) :
    rest.length ≤ cs.length := by
  induction beginning generalizing cs with
  | nil => exact Nat.le_of_eq (congrArg List.length (Option.some.inj h)).symm
  | cons c beginning ih =>
    cases cs with
    | nil => cases h
    | cons d cs =>
      change (if c == d then beginning.isPrefixOf? cs else none) = some rest at h
      split at h
      · exact Nat.le_succ_of_le (ih h)
      · cases h

theorem splitFirst_length_le {pattern cs before after : List Char}
    (h : splitFirst pattern cs = some (before, after)) : after.length ≤ cs.length := by
  induction cs generalizing before with
  | nil =>
    obtain ⟨rest, hrest, hpair⟩ := Option.map_eq_some_iff.mp h
    cases hpair
    exact isPrefixOf?_length_le hrest
  | cons c cs ih =>
    simp only [splitFirst] at h
    split at h
    · next rest hrest =>
      cases h
      exact isPrefixOf?_length_le hrest
    · obtain ⟨⟨b, a⟩, hsplit, hpair⟩ := Option.map_eq_some_iff.mp h
      cases hpair
      exact Nat.le_succ_of_le (ih hsplit)

theorem subsetMarkup_length_le {cs rest : List Char} (h : subsetMarkup cs = some rest) :
    rest.length ≤ cs.length := by
  simp only [subsetMarkup] at h
  split at h
  · next inner hinner =>
    obtain ⟨⟨b, a⟩, hsplit, rfl⟩ := Option.map_eq_some_iff.mp h
    exact Nat.le_trans (splitFirst_length_le hsplit) (isPrefixOf?_length_le hinner)
  · split at h
    · next inner hinner =>
      obtain ⟨⟨b, a⟩, hsplit, rfl⟩ := Option.map_eq_some_iff.mp h
      exact Nat.le_trans (splitFirst_length_le hsplit) (isPrefixOf?_length_le hinner)
    · split at h
      · obtain ⟨⟨b, a⟩, htag, rfl⟩ := Option.map_eq_some_iff.mp h
        cases hbody : tagBody none cs with
        | error fault => simp [hbody, Except.toOption] at htag
        | ok pair =>
          simp only [hbody, Except.toOption, Option.some.injEq] at htag
          subst htag
          exact Nat.le_of_lt (tagBody_length_lt hbody)
      · obtain ⟨⟨b, a⟩, hcut, rfl⟩ := Option.map_eq_some_iff.mp h
        exact Nat.le_of_lt (cutAt_length_lt hcut)

def afterSubset : List Char → Option (List Char)
  | [] => none
  | c :: cs =>
    if c = ']' then (cutAt (· == '>') cs).map Prod.snd
    else if c = '<' then
      match hmarkup : subsetMarkup cs with
      | some rest =>
        have : rest.length < (c :: cs).length := Nat.lt_succ_of_le (subsetMarkup_length_le hmarkup)
        afterSubset rest
      | none => none
    else afterSubset cs
termination_by cs => cs.length
decreasing_by
  · assumption
  · exact Nat.lt_succ_self _

/-- What is left after a document type: up to the first `>` outside quotes and brackets. -/
def afterDoctype : (quote : Option Char) → List Char → Option (List Char)
  | _, [] => none
  | none, c :: cs =>
    if c = '>' then some cs
    else if c = '[' then afterSubset cs
    else afterDoctype (if isQuote c then some c else none) cs
  | some q, c :: cs => afterDoctype (if c = q then none else some q) cs

def doctypeWord : List Char := "doctype".toList

def doctype (cs : List Char) : Cut :=
  if (cs.take doctypeWord.length).map Char.toLower = doctypeWord then
    let body := cs.drop doctypeWord.length
    if (skipSpace body).head? = some '>' then .error .namelessDoctype
    else
      match afterDoctype none body with
      | some rest => .ok (.silent, rest)
      | none => .error .openDoctype
  else .error .openDoctype

def declaration : List Char → Cut
  | [] => .error .unknownMarkup
  | c :: cs =>
    if c = '[' then characterSection (c :: cs)
    else if c = '-' then comment (c :: cs)
    else if c = 'D' ∨ c = 'd' then doctype (c :: cs)
    else .error .unknownMarkup

def markup : List Char → Cut
  | [] => .error .openTag
  | c :: cs =>
    if c = '!' then declaration cs
    else if c = '?' then instruction cs
    else if c = '/' then closing cs
    else opening (c :: cs)

/-- What begins after a `&`: a reference ends at a semicolon before any other `&` or `<`. -/
def reference (cs : List Char) : Cut :=
  match cutAt (fun c => c == ';' || c == '&' || c == '<') cs with
  | some (body, rest) =>
    if (cs.drop body.length).head? = some ';' then .ok (.reference body, rest) else .error .openReference
  | none => .error .openReference

def isPlain (c : Char) : Bool := c != '<' && c != '&'

def nextEvent : List Char → Option Cut
  | [] => none
  | c :: cs =>
    if c = '<' then some (markup cs)
    else if c = '&' then some (reference cs)
    else some (.ok (.text (c :: cs.takeWhile isPlain), cs.dropWhile isPlain))

theorem upTo_length_le {mark : String} {fault : SyntaxFault} {make : List Char → Event} {cs rest : List Char}
    {event : Event} (h : upTo mark fault make cs = .ok (event, rest)) : rest.length ≤ cs.length := by
  simp only [upTo] at h
  split at h
  · next content after hsplit =>
    simp only [Except.ok.injEq, Prod.mk.injEq] at h
    simpa [h.2] using splitFirst_length_le hsplit
  · simp at h

theorem tagEvent_length_lt {cs rest : List Char} {make : List Char → Event} {event : Event}
    (h : (tagBody none cs).map (fun (body, rest) => (make body, rest)) = .ok (event, rest)) :
    rest.length < cs.length := by
  cases hbody : tagBody none cs with
  | error fault => simp [hbody, Except.map] at h
  | ok pair =>
    simp only [hbody, Except.map, Except.ok.injEq, Prod.mk.injEq] at h
    simpa [h.2] using tagBody_length_lt hbody

theorem comment_length_le {cs rest : List Char} {event : Event} (h : comment cs = .ok (event, rest)) :
    rest.length ≤ cs.length := by
  simp only [comment] at h
  split at h
  · next inner hinner => exact Nat.le_trans (upTo_length_le h) (isPrefixOf?_length_le hinner)
  · simp at h

theorem characterSection_length_le {cs rest : List Char} {event : Event}
    (h : characterSection cs = .ok (event, rest)) : rest.length ≤ cs.length := by
  simp only [characterSection] at h
  split at h
  · next inner hinner => exact Nat.le_trans (upTo_length_le h) (isPrefixOf?_length_le hinner)
  · simp at h

theorem instruction_length_le {cs rest : List Char} {event : Event}
    (h : instruction cs = .ok (event, rest)) : rest.length ≤ cs.length := by
  simp only [instruction] at h
  split at h
  · simp at h
  · exact upTo_length_le h

theorem afterSubset_length_le {cs rest : List Char} (h : afterSubset cs = some rest) :
    rest.length ≤ cs.length := by
  fun_induction afterSubset cs with
  | case1 => simp at h
  | case2 cs =>
    obtain ⟨⟨b, a⟩, hcut, rfl⟩ := Option.map_eq_some_iff.mp h
    have := cutAt_length_lt hcut
    simp only [List.length_cons]
    omega
  | case3 cs inner hmarkup _ _ ih =>
    have := subsetMarkup_length_le hmarkup
    have := ih h
    simp only [List.length_cons]
    omega
  | case4 => simp at h
  | case5 c cs hc hlt ih =>
    have := ih h
    simp only [List.length_cons]
    omega

theorem afterDoctype_length_le {quote : Option Char} {cs rest : List Char}
    (h : afterDoctype quote cs = some rest) : rest.length ≤ cs.length := by
  induction cs generalizing quote with
  | nil => cases quote <;> simp [afterDoctype] at h
  | cons c cs ih =>
    cases quote with
    | none =>
      simp only [afterDoctype] at h
      split at h
      · simp only [Option.some.injEq] at h
        simp [h]
      · split at h
        · have := afterSubset_length_le h
          simp only [List.length_cons]
          omega
        · exact Nat.le_succ_of_le (ih h)
    | some q => exact Nat.le_succ_of_le (ih h)

theorem doctype_length_le {cs rest : List Char} {event : Event} (h : doctype cs = .ok (event, rest)) :
    rest.length ≤ cs.length := by
  simp only [doctype] at h
  split at h
  · split at h
    · simp at h
    · split at h
      · next after hafter =>
        simp only [Except.ok.injEq, Prod.mk.injEq] at h
        have := afterDoctype_length_le hafter
        simp only [List.length_drop, h.2] at this
        omega
      · simp at h
  · simp at h

theorem declaration_length_le {cs rest : List Char} {event : Event}
    (h : declaration cs = .ok (event, rest)) : rest.length ≤ cs.length := by
  cases cs with
  | nil => simp [declaration] at h
  | cons c cs =>
    simp only [declaration] at h
    split at h
    · exact characterSection_length_le h
    · split at h
      · exact comment_length_le h
      · split at h
        · exact doctype_length_le h
        · simp at h

theorem markup_length_le {cs rest : List Char} {event : Event} (h : markup cs = .ok (event, rest)) :
    rest.length ≤ cs.length := by
  cases cs with
  | nil => simp [markup] at h
  | cons c cs =>
    simp only [markup] at h
    split at h
    · exact Nat.le_succ_of_le (declaration_length_le h)
    · split at h
      · exact Nat.le_succ_of_le (instruction_length_le h)
      · split at h
        · exact Nat.le_succ_of_le (Nat.le_of_lt (tagEvent_length_lt h))
        · exact Nat.le_of_lt (tagEvent_length_lt h)

theorem reference_length_le {cs rest : List Char} {event : Event} (h : reference cs = .ok (event, rest)) :
    rest.length ≤ cs.length := by
  simp only [reference] at h
  split at h
  · next body after hcut =>
    split at h
    · simp only [Except.ok.injEq, Prod.mk.injEq] at h
      simpa [h.2] using Nat.le_of_lt (cutAt_length_lt hcut)
    · simp at h
  · simp at h

theorem nextEvent_length_lt {cs rest : List Char} {event : Event}
    (h : nextEvent cs = some (.ok (event, rest))) : rest.length < cs.length := by
  cases cs with
  | nil => simp [nextEvent] at h
  | cons c cs =>
    simp only [nextEvent] at h
    split at h
    · exact Nat.lt_succ_of_le (markup_length_le (Option.some.inj h))
    · split at h
      · exact Nat.lt_succ_of_le (reference_length_le (Option.some.inj h))
      · simp only [Option.some.injEq, Except.ok.injEq, Prod.mk.injEq] at h
        have : (cs.dropWhile isPlain).length ≤ cs.length := (List.dropWhile_suffix _).length_le
        rw [h.2] at this
        exact Nat.lt_succ_of_le this

end Introspection.Markup
