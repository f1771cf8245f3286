import Introspection.Text.Unicode

set_option autoImplicit false

namespace Introspection.Text

/-- What stands before and after the first occurrence of `pattern`. -/
def splitFirst (pattern : List Char) : List Char → Option (List Char × List Char)
  | [] => (pattern.isPrefixOf? []).map fun rest => ([], rest)
  | c :: cs =>
    match pattern.isPrefixOf? (c :: cs) with
    | some rest => some ([], rest)
    | none => (splitFirst pattern cs).map fun (before, after) => (c :: before, after)

def splitLast (pattern : List Char) : List Char → Option (List Char × List Char)
  | [] => (pattern.isPrefixOf? []).map fun rest => ([], rest)
  | c :: cs =>
    match splitLast pattern cs with
    | some (before, after) => some (c :: before, after)
    | none => (pattern.isPrefixOf? (c :: cs)).map fun rest => ([], rest)

def cutAt (p : Char → Bool) : List Char → Option (List Char × List Char)
  | [] => none
  | c :: cs => if p c then some ([], cs) else (cutAt p cs).map fun (before, after) => (c :: before, after)

theorem cutAt_append {p : Char → Bool} {cs before after : List Char}
    (h : cutAt p cs = some (before, after)) :
    ∃ c, p c ∧ cs = before ++ c :: after ∧ ∀ d ∈ before, p d = false := by
  induction cs generalizing before after with
  | nil => simp [cutAt] at h
  | cons c cs ih =>
    simp only [cutAt] at h
    split at h
    · next hc =>
      cases h
      exact ⟨c, hc, rfl, by simp⟩
    · next hc =>
      obtain ⟨⟨b, a⟩, hcut, hpair⟩ := Option.map_eq_some_iff.mp h
      cases hpair
      obtain ⟨d, hd, happend, hbefore⟩ := ih hcut
      exact ⟨d, hd, by simp [happend], by simpa [hc] using hbefore⟩

theorem cutAt_eq_none_iff {p : Char → Bool} {cs : List Char} : cutAt p cs = none ↔ ∀ c ∈ cs, p c = false := by
  induction cs with
  | nil => simp [cutAt]
  | cons c cs ih => cases hc : p c <;> simp [cutAt, hc, ih]

def contains (pattern s : String) : Bool := (splitFirst pattern.toList s.toList).isSome

def beginsWith (beginning s : String) : Bool := beginning.toList.isPrefixOf s.toList

def endsWith (ending s : String) : Bool := ending.toList.isSuffixOf s.toList

def withoutBeginning? (beginning s : String) : Option String :=
  (beginning.toList.isPrefixOf? s.toList).map String.ofList

def withoutEnding? (ending s : String) : Option String :=
  (ending.toList.isSuffixOf? s.toList).map String.ofList

def afterLast (separator s : String) : String :=
  match splitLast separator.toList s.toList with
  | some (_, after) => String.ofList after
  | none => s

def beforeLast? (separator s : String) : Option String :=
  (splitLast separator.toList s.toList).map fun (before, _) => String.ofList before

def dropBlankEnd (cs : List Char) : List Char := (cs.reverse.dropWhile isBlank).reverse

def dropBlankEnds (cs : List Char) : List Char := dropBlankEnd (cs.dropWhile isBlank)

def trimEnd (s : String) : String := String.ofList (dropBlankEnd s.toList)

def trim (s : String) : String := String.ofList (dropBlankEnds s.toList)

def dropReturn (cs : List Char) : List Char :=
  if cs.getLast? = some '\r' then cs.dropLast else cs

/-- One carriage return before a line feed belongs to the end of the line, and what follows the last line feed is a line if
    there is anything. -/
def closeLines : List (List Char) → List (List Char)
  | [] => []
  | [last] => if last.isEmpty then [] else [last]
  | line :: rest => dropReturn line :: closeLines rest

def lines (s : String) : List String :=
  (closeLines (s.toList.splitOnP (· == '\n'))).map String.ofList

def unlines (lines : List String) : String := String.join (lines.map fun line => line ++ "\n")

end Introspection.Text
