import ServiceDiagram.Json.Lexeme

/-!
# The bytes of characters

A document is read byte by byte and described character by character.  `utf8` goes from one to the
other; an ASCII character is one byte, and the bytes of any other are not among the bytes that mean
something to a reader.
-/

namespace ServiceDiagram.Json

def utf8 (cs : List Char) : Bytes := cs.flatMap String.utf8EncodeChar

theorem utf8_nil : utf8 [] = [] := rfl
theorem utf8_cons (c : Char) (cs : List Char) :
    utf8 (c :: cs) = String.utf8EncodeChar c ++ utf8 cs := rfl
theorem utf8_append (as bs : List Char) : utf8 (as ++ bs) = utf8 as ++ utf8 bs :=
  List.flatMap_append

theorem encode_ofList (cs : List Char) : Text.encode (String.ofList cs) = utf8 cs := by
  show ((cs.flatMap String.utf8EncodeChar).toByteArray).data.toList = _
  rw [List.toList_data_toByteArray]
  rfl

theorem encode_eq_utf8 (s : String) : Text.encode s = utf8 s.toList := by
  rw [← encode_ofList, String.ofList_toList]

/-! ### single characters -/

theorem utf8EncodeChar_ascii {c : Char} (h : c.toNat < 0x80) :
    String.utf8EncodeChar c = [c.toNat.toUInt8] := by
  have hle : c.val.toNat ≤ 0x7f := Nat.le_of_lt_succ h
  show (if c.val.toNat ≤ 0x7f then _ else _) = _
  rw [if_pos hle]
  rfl

theorem utf8_cons_ascii {c : Char} (h : c.toNat < 0x80) (cs : List Char) :
    utf8 (c :: cs) = c.toNat.toUInt8 :: utf8 cs := by
  rw [utf8_cons, utf8EncodeChar_ascii h]
  rfl

theorem le_of_mem_utf8EncodeChar {c : Char} (h : 0x80 ≤ c.toNat) {b : UInt8}
    (hb : b ∈ String.utf8EncodeChar c) : 0x80 ≤ b.toNat := by
  have hv : ¬ c.val.toNat ≤ 0x7f := Nat.not_le.mpr h
  unfold String.utf8EncodeChar at hb
  simp only [if_neg hv] at hb
  split at hb
  · simp only [List.mem_cons, List.not_mem_nil, or_false] at hb
    rcases hb with rfl | rfl <;> rw [UInt8.toNat_ofNat'] <;> omega
  · split at hb
    · simp only [List.mem_cons, List.not_mem_nil, or_false] at hb
      rcases hb with rfl | rfl | rfl <;> rw [UInt8.toNat_ofNat'] <;> omega
    · simp only [List.mem_cons, List.not_mem_nil, or_false] at hb
      rcases hb with rfl | rfl | rfl | rfl <;> rw [UInt8.toNat_ofNat'] <;> omega

theorem toNat_ascii {c : Char} (h : c.toNat < 0x80) : c.toNat.toUInt8.toNat = c.toNat := by
  rw [Nat.toUInt8_eq, UInt8.toNat_ofNat']
  omega

end ServiceDiagram.Json
