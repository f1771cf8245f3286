import Mathlib.Data.String.Basic

/-!
Texts and their bytes. A character is encoded by a leading byte, which tells how many bytes follow, and by six bits in
each of these. The bytes of a smaller and a larger character therefore differ before either ends, at a smaller byte of
the smaller one, and so do the bytes of a smaller and a larger text.
-/

set_option autoImplicit false

namespace Introspection.Text

def utf8Bytes (s : String) : List UInt8 := s.toByteArray.data.toList

theorem length_utf8Bytes (s : String) : (utf8Bytes s).length = s.utf8ByteSize := rfl

theorem utf8Bytes_eq_flatMap (s : String) : utf8Bytes s = s.toList.flatMap String.utf8EncodeChar := by
  rw [utf8Bytes, ← String.utf8Encode_toList]
  exact List.toList_data_toByteArray

theorem cons_ofNat_lt {m n : Nat} (hmn : m < n) (hn : n < 256) (u v : List UInt8) :
    UInt8.ofNat m :: u < UInt8.ofNat n :: v := by
  have hbytes : UInt8.ofNat m < UInt8.ofNat n := (UInt8.ofNat_lt_iff_lt (Nat.lt_trans hmn hn) hn).mpr hmn
  exact List.cons_lt_cons_iff.mpr (Or.inl hbytes)

/-- Bytes for numbers: the first byte is between `low` and `high`, and of two numbers below the bound the smaller one
    has the smaller bytes, whatever follows. -/
structure Ordered (low high bound : Nat) (bytes : Nat → List UInt8) : Prop where
  begins : ∀ n, ∃ first rest, bytes n = UInt8.ofNat first :: rest ∧ low ≤ first ∧ first < high
  increasing : ∀ m n, m < n → n < bound → ∀ u v : List UInt8, bytes m ++ u < bytes n ++ v

def leading (size offset n : Nat) : List UInt8 := [UInt8.ofNat (n % size + offset)]

def continued (bytes : Nat → List UInt8) (n : Nat) : List UInt8 := bytes (n / 64) ++ [UInt8.ofNat (n % 64 + 128)]

def divided (bound : Nat) (below above : Nat → List UInt8) (n : Nat) : List UInt8 :=
  if n < bound then below n else above n

theorem ordered_leading (size offset : Nat) (hpos : 0 < size) (hsize : offset + size ≤ 256) :
    Ordered offset (offset + size) size (leading size offset) where
  begins := by
    intro n
    have hlt : n % size < size := Nat.mod_lt n hpos
    exact ⟨n % size + offset, [], rfl, by omega, by omega⟩
  increasing := by
    intro m n hmn hn u v
    rw [leading, leading, Nat.mod_eq_of_lt hn, Nat.mod_eq_of_lt (Nat.lt_trans hmn hn)]
    exact cons_ofNat_lt (by omega) (by omega) u v

theorem Ordered.continued {low high bound : Nat} {bytes : Nat → List UInt8} (h : Ordered low high bound bytes) :
    Ordered low high (64 * bound) (continued bytes) where
  begins := by
    intro n
    obtain ⟨first, rest, hbytes, hfirst⟩ := h.begins (n / 64)
    refine ⟨first, rest ++ [UInt8.ofNat (n % 64 + 128)], ?_, hfirst⟩
    rw [Text.continued, hbytes, List.cons_append]
  increasing := by
    intro m n hmn hn u v
    rw [Text.continued, Text.continued, List.append_assoc, List.append_assoc]
    by_cases hhigh : m / 64 < n / 64
    · exact h.increasing _ _ hhigh (by omega) _ _
    · have hsame : m / 64 = n / 64 := by omega
      rw [hsame]
      exact List.append_left_lt (cons_ofNat_lt (by omega) (by omega) _ _)

theorem Ordered.divided {low middle middle' high bound limit : Nat} {below above : Nat → List UInt8}
    (hbelow : Ordered low middle bound below) (habove : Ordered middle' high limit above) (hmiddle : middle ≤ middle')
    (hhigh : high ≤ 256) : Ordered low high limit (divided bound below above) where
  begins := by
    intro n
    obtain ⟨first, rest, hfirst, hlow, hlt⟩ := hbelow.begins n
    obtain ⟨first', rest', hfirst', hle, hlt'⟩ := habove.begins n
    unfold Text.divided
    split
    · exact ⟨first, rest, hfirst, hlow, by omega⟩
    · exact ⟨first', rest', hfirst', by omega, hlt'⟩
  increasing := by
    intro m n hmn hn u v
    unfold Text.divided
    by_cases hm : m < bound
    · by_cases hn' : n < bound
      · rw [if_pos hm, if_pos hn']
        exact hbelow.increasing m n hmn hn' u v
      · -- The two are encoded differently, and the first bytes tell them apart.
        obtain ⟨first, rest, hfirst, _, hlt⟩ := hbelow.begins m
        obtain ⟨first', rest', hfirst', hle, hlt'⟩ := habove.begins n
        rw [if_pos hm, if_neg hn', hfirst, hfirst']
        exact cons_ofNat_lt (by omega) (by omega) _ _
    · rw [if_neg hm, if_neg (by omega)]
      exact habove.increasing m n hmn hn u v

def twoBytes : Nat → List UInt8 := continued (leading 32 192)

def threeBytes : Nat → List UInt8 := continued (continued (leading 16 224))

def fourBytes : Nat → List UInt8 := continued (continued (continued (leading 8 240)))

def encoded : Nat → List UInt8 :=
  divided 128 (leading 128 0) (divided 2048 twoBytes (divided 65536 threeBytes fourBytes))

theorem utf8EncodeChar_eq_encoded (c : Char) : String.utf8EncodeChar c = encoded c.val.toNat := by
  unfold String.utf8EncodeChar
  generalize c.val.toNat = n
  have hone : n ≤ 127 ↔ n < 128 := by omega
  have htwo : n ≤ 2047 ↔ n < 2048 := by omega
  have hthree : n ≤ 65535 ↔ n < 65536 := by omega
  simp only [hone, htwo, hthree, encoded, divided, twoBytes, threeBytes, fourBytes, continued, leading,
    Nat.div_div_eq_div_mul, Nat.reduceMul]
  split
  · next h => rw [Nat.mod_eq_of_lt h]; rfl
  · rfl

theorem ordered_encoded : Ordered 0 248 2097152 encoded := by
  have hone : Ordered 0 128 128 (leading 128 0) := ordered_leading 128 0 (by decide) (by decide)
  have htwo : Ordered 192 224 2048 twoBytes := (ordered_leading 32 192 (by decide) (by decide)).continued
  have hthree : Ordered 224 240 65536 threeBytes :=
    (ordered_leading 16 224 (by decide) (by decide)).continued.continued
  have hfour : Ordered 240 248 2097152 fourBytes :=
    (ordered_leading 8 240 (by decide) (by decide)).continued.continued.continued
  have hlong := hthree.divided hfour (by decide) (by decide)
  exact hone.divided (htwo.divided hlong (by decide) (by decide)) (by decide) (by decide)

theorem utf8EncodeChar_append_lt {c d : Char} (h : c < d) (u v : List UInt8) :
    String.utf8EncodeChar c ++ u < String.utf8EncodeChar d ++ v := by
  have hvalid : d.val.toNat < 2097152 := by
    have hd := d.valid
    unfold UInt32.isValidChar Nat.isValidChar at hd
    omega
  rw [utf8EncodeChar_eq_encoded, utf8EncodeChar_eq_encoded]
  exact ordered_encoded.increasing _ _ h hvalid u v

theorem flatMap_utf8EncodeChar_lt {cs ds : List Char} (h : cs < ds) :
    cs.flatMap String.utf8EncodeChar < ds.flatMap String.utf8EncodeChar := by
  induction h with
  | @nil d ds =>
    obtain ⟨first, rest, hbytes, _⟩ := ordered_encoded.begins d.val.toNat
    rw [List.flatMap_nil, List.flatMap_cons, utf8EncodeChar_eq_encoded, hbytes]
    exact List.nil_lt_cons _ _
  | rel hcd =>
    rw [List.flatMap_cons, List.flatMap_cons]
    exact utf8EncodeChar_append_lt hcd _ _
  | cons _ ih =>
    rw [List.flatMap_cons, List.flatMap_cons]
    exact List.append_left_lt ih

theorem utf8Bytes_lt_utf8Bytes {s t : String} (h : s < t) : utf8Bytes s < utf8Bytes t := by
  rw [utf8Bytes_eq_flatMap, utf8Bytes_eq_flatMap]
  exact flatMap_utf8EncodeChar_lt (String.lt_iff_toList_lt.mp h)

theorem utf8Bytes_le_utf8Bytes_iff {s t : String} : utf8Bytes s ≤ utf8Bytes t ↔ s ≤ t := by
  constructor
  · intro hbytes
    exact String.not_lt.mp fun hlt => hbytes (utf8Bytes_lt_utf8Bytes hlt)
  · intro hle hbytes
    obtain rfl | hlt := eq_or_lt_of_le hle
    · exact List.lt_irrefl _ hbytes
    · exact List.lt_asymm hbytes (utf8Bytes_lt_utf8Bytes hlt)

end Introspection.Text
