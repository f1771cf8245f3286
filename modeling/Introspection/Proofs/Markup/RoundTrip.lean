import Introspection.Proofs.Markup.Tags

set_option autoImplicit false

namespace Introspection.Markup

open Text

namespace Assembly

theorem read_start (a : Assembly) (h : Heading) (rest : List Char) :
    a.read ('<' :: h.chars ++ '>' :: rest) = { a with pending := h.toElement :: a.pending }.read rest :=
  read_step (h.nextEvent_start rest) (by rw [step, h.ofTag_tag])

theorem read_whole (a : Assembly) (h : Heading) (rest : List Char) :
    a.read ('<' :: h.chars ++ '/' :: '>' :: rest) = (a.attach h.toElement).read rest :=
  read_step (h.nextEvent_whole rest) (by rw [step, h.ofTag_tag])

theorem read_close (root : Option Element) {e : Element} {n : QualifiedName}
    (hname : e.qualifiedName = String.ofList n.written) (pending : List Element) (rest : List Char) :
    ({ root, pending := e :: pending } : Assembly).read ('<' :: '/' :: n.written ++ '>' :: rest) =
      (({ root, pending } : Assembly).attach { e with text := trim e.text }).read rest :=
  read_step (n.nextEvent_close rest) (by simp [step, hname])

theorem foldl_attach (root : Option Element) (e : Element) (pending children : List Element) :
    children.foldl attach { root, pending := e :: pending } =
      { root, pending := { e with children := e.children ++ children } :: pending } := by
  induction children generalizing e with
  | nil =>
    cases e
    simp
  | cons child children ih =>
    rw [List.foldl_cons, attach, ih]
    simp

mutual

theorem read_chars (a : Assembly) (w : Written) (rest : List Char) :
    a.read (w.chars ++ rest) = (a.attach w.toElement).read rest := by
  cases w with
  | brief heading =>
    have hchars : (Written.brief heading).chars ++ rest = '<' :: heading.chars ++ '/' :: '>' :: rest := by
      simp [Written.chars]
    rw [hchars, read_whole, Written.toElement]
  | full heading text children =>
    obtain ⟨root, pending⟩ := a
    have hchars : (Written.full heading text children).chars ++ rest =
        '<' :: heading.chars ++ '>' :: (escape text.content.toList ++
          (Written.charsOfAll children ++ ('<' :: '/' :: heading.name.written ++ '>' :: rest))) := by
      simp [Written.chars]
    -- The text comes first, so it is whole before the children; trimming it then takes nothing away.
    rw [hchars, read_start, read_escape, read_charsOfAll, addText, foldl_attach, read_close _ rfl]
    simp [Written.toElement, Heading.toElement, text.trimmed]

theorem read_charsOfAll (a : Assembly) (ws : List Written) (rest : List Char) :
    a.read (Written.charsOfAll ws ++ rest) = ((Written.toElements ws).foldl attach a).read rest := by
  cases ws with
  | nil => rfl
  | cons w ws =>
    rw [Written.charsOfAll, List.append_assoc, read_chars, read_charsOfAll, Written.toElements, List.foldl_cons]

end

end Assembly

theorem withoutMark_chars (w : Written) : withoutMark w.chars = w.chars := by
  cases w <;> rfl

/-- A document is read back as the element it was written for. -/
theorem readDocument_render (w : Written) : readDocument w.render = .ok w.toElement := by
  calc
    readDocument w.render = ({} : Assembly).read (w.chars ++ []) := by
      simp [readDocument, Written.render, withoutMark_chars]
    _ = (({} : Assembly).attach w.toElement).read [] := Assembly.read_chars _ _ _
    _ = .ok w.toElement := Assembly.read_nil _

example :
    let c : PlainName := ⟨['c'], by decide⟩
    let type : PlainName := ⟨"type".toList, by decide⟩
    let w : Written :=
      .full { name := ⟨none, type⟩, attributes := [(⟨some c, type⟩, "\"GList<int>\""), (⟨none, type⟩, " & ")] }
        { content := "a < b" } [.brief { name := ⟨some c, type⟩ }]
    w.render = "<type c:type=\"&quot;GList&lt;int&gt;&quot;\" type=\" &amp; \">a &lt; b<c:type/></type>" ∧
      w.toElement.attributes = [("type", "\"GList<int>\""), ("type", " & ")] := by
  decide +kernel

end Introspection.Markup
