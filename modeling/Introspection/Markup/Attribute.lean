import Introspection.Text.Split

set_option autoImplicit false

namespace Introspection.Markup

open Text

def isSpace (c : Char) : Bool := c == ' ' || c == '\t' || c == '\r' || c == '\n'

def skipSpace (cs : List Char) : List Char := cs.dropWhile isSpace

structure RawAttribute where
  key : List Char
  value : List Char
deriving DecidableEq, Repr

def endsKey (c : Char) : Bool := c == '=' || isSpace c

inductive KeyStep where
  | stop
  /-- A name that no equals sign follows; reading goes on at what does follow. -/
  | bare (rest : List Char)
  | keyed (key afterEquals : List Char)

/-- The first character belongs to the name whatever it is. -/
def readKey : List Char → KeyStep
  | [] => .stop
  | c :: cs =>
    match skipSpace (cs.dropWhile fun c => !endsKey c) with
    | [] => .stop
    | d :: rest => if d = '=' then .keyed (c :: cs.takeWhile fun c => !endsKey c) rest else .bare (d :: rest)

inductive ValueStep where
  | stop
  /-- A value without quotes; reading goes on at the next space. -/
  | unquoted (rest : List Char)
  | quoted (value rest : List Char)

def isQuote (c : Char) : Bool := c == '"' || c == '\''

def readValue (afterEquals : List Char) : ValueStep :=
  match skipSpace afterEquals with
  | [] => .stop
  | q :: cs =>
    if isQuote q then
      match cutAt (· == q) cs with
      | some (value, rest) => .quoted value rest
      | none => .stop
    else .unquoted ((q :: cs).dropWhile fun c => !isSpace c)

theorem skipSpace_length_le (cs : List Char) : (skipSpace cs).length ≤ cs.length :=
  (List.dropWhile_suffix _).length_le

theorem cutAt_length_lt {p : Char → Bool} {cs before after : List Char}
    (h : cutAt p cs = some (before, after)) : after.length < cs.length := by
  obtain ⟨c, _, happend, _⟩ := cutAt_append h
  simp [happend]
  omega

theorem readKey_bare_length_lt {cs rest : List Char} (h : readKey cs = .bare rest) :
    rest.length < cs.length := by
  cases cs with
  | nil => simp [readKey] at h
  | cons c cs =>
    have hs := skipSpace_length_le (cs.dropWhile fun c => !endsKey c)
    have hd : (cs.dropWhile fun c => !endsKey c).length ≤ cs.length := (List.dropWhile_suffix _).length_le
    simp only [readKey] at h
    split at h
    · simp at h
    · next d tail heq =>
      rw [heq] at hs
      split at h
      · simp at h
      · simp only [KeyStep.bare.injEq] at h
        subst h
        simp only [List.length_cons] at *
        omega

theorem readKey_keyed_length_lt {cs key rest : List Char} (h : readKey cs = .keyed key rest) :
    rest.length < cs.length := by
  cases cs with
  | nil => simp [readKey] at h
  | cons c cs =>
    have hs := skipSpace_length_le (cs.dropWhile fun c => !endsKey c)
    have hd : (cs.dropWhile fun c => !endsKey c).length ≤ cs.length := (List.dropWhile_suffix _).length_le
    simp only [readKey] at h
    split at h
    · simp at h
    · next d tail heq =>
      rw [heq] at hs
      split at h
      · simp only [KeyStep.keyed.injEq] at h
        simp only [List.length_cons, ← h.2] at *
        omega
      · simp at h

theorem readValue_unquoted_length_le {cs rest : List Char} (h : readValue cs = .unquoted rest) :
    rest.length ≤ cs.length := by
  have hs := skipSpace_length_le cs
  simp only [readValue] at h
  split at h
  · simp at h
  · next q tail heq =>
    rw [heq] at hs
    split at h
    · split at h <;> simp at h
    · simp only [ValueStep.unquoted.injEq] at h
      have hd : ((q :: tail).dropWhile fun c => !isSpace c).length ≤ (q :: tail).length :=
        (List.dropWhile_suffix _).length_le
      rw [h] at hd
      omega

theorem readValue_quoted_length_le {cs value rest : List Char} (h : readValue cs = .quoted value rest) :
    rest.length ≤ cs.length := by
  have hs := skipSpace_length_le cs
  simp only [readValue] at h
  split at h
  · simp at h
  · next q tail heq =>
    rw [heq] at hs
    split at h
    · split at h
      · next v r hcut =>
        simp only [ValueStep.quoted.injEq] at h
        have := cutAt_length_lt hcut
        simp only [List.length_cons, ← h.2] at *
        omega
      · simp at h
    · simp at h

/-- Reads attributes until the text ends or breaks off. `known` holds the names met so far, those with an
    unusable value among them. A repeated name is dropped up to the next space, whether or not that space
    stands between quotes. -/
def scanAttributes (known : List (List Char)) (cs : List Char) : List RawAttribute :=
  match hkey : readKey (skipSpace cs) with
  | .stop => []
  | .bare rest =>
    have : rest.length < cs.length :=
      Nat.lt_of_lt_of_le (readKey_bare_length_lt hkey) (skipSpace_length_le cs)
    scanAttributes known rest
  | .keyed key afterEquals =>
    have shorter : afterEquals.length < cs.length :=
      Nat.lt_of_lt_of_le (readKey_keyed_length_lt hkey) (skipSpace_length_le cs)
    if key ∈ known then
      have : (afterEquals.dropWhile fun c => !isSpace c).length < cs.length :=
        Nat.lt_of_le_of_lt (List.dropWhile_suffix _).length_le shorter
      scanAttributes known (afterEquals.dropWhile fun c => !isSpace c)
    else
      match hvalue : readValue afterEquals with
      | .stop => []
      | .unquoted rest =>
        have : rest.length < cs.length := Nat.lt_of_le_of_lt (readValue_unquoted_length_le hvalue) shorter
        scanAttributes (key :: known) rest
      | .quoted value rest =>
        have : rest.length < cs.length := Nat.lt_of_le_of_lt (readValue_quoted_length_le hvalue) shorter
        ⟨key, value⟩ :: scanAttributes (key :: known) rest
termination_by cs.length

end Introspection.Markup
