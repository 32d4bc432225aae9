import ServiceDiagram.Json.Skip
import ServiceDiagram.Proofs.Json.Bytes
import ServiceDiagram.Proofs.Json.Grammar
import ServiceDiagram.Proofs.Text.Hex
import ServiceDiagram.Proofs.Text.Utf16

/-!
# Strings are read as they are spelled

Behind the opening quote of any spelling of a text, `readString` gives the text and `skipString`
finds the end.  The escapes come first, then one character, then the whole text.  -/

namespace ServiceDiagram.Json

/-! ### hexadecimal digits -/

theorem readUnit_utf8 {n : Nat} {ds : List Char} (h : HexDigits n ds) (rest : Bytes) :
    readUnit (utf8 ds ++ rest) = .ok (n, rest) ∧ n < 0x10000 := by
  obtain ⟨hl, hn⟩ := h
  obtain ⟨a, b, c, d, rfl⟩ : ∃ a b c d, ds = [a, b, c, d] := by
    match ds, hl with
    | [a, b, c, d], _ => exact ⟨a, b, c, d, rfl⟩
  have hlt : n < 16 ^ 4 := Text.hexNumber?_lt hn
  have hn' := hn
  simp only [Text.hexNumber?, List.foldlM_cons, List.foldlM_nil, Option.bind_eq_bind,
    Option.bind_eq_some_iff, Option.map_eq_some_iff, Option.pure_def, Option.some.injEq] at hn'
  obtain ⟨_, ⟨va, ha, rfl⟩, _, ⟨vb, hb, rfl⟩, _, ⟨vc, hc, rfl⟩, _, ⟨vd, hd, rfl⟩, rfl⟩ := hn'
  have la := (Text.toNat_lt_of_hexValue? ha).1
  have lb := (Text.toNat_lt_of_hexValue? hb).1
  have lc := (Text.toNat_lt_of_hexValue? hc).1
  have ld := (Text.toNat_lt_of_hexValue? hd).1
  refine ⟨?_, by omega⟩
  rw [utf8_cons_ascii la, utf8_cons_ascii lb, utf8_cons_ascii lc, utf8_cons_ascii ld, utf8_nil]
  simp only [readUnit, List.cons_append, List.nil_append, List.map_cons, List.map_nil,
    toNat_ascii la, toNat_ascii lb, toNat_ascii lc, toNat_ascii ld, Char.ofNat_toNat, hn]

/-! ### escapes -/

theorem isLow_toUInt16 {n : Nat} (h : n < 0x10000) :
    Text.isLow n.toUInt16 = decide (0xdc00 ≤ n ∧ n < 0xe000) := by
  rw [Bool.eq_iff_iff, Text.isLow_iff, Text.toNat_toUInt16 h, decide_eq_true_iff]

theorem isHigh_toUInt16 {n : Nat} (h : n < 0x10000) :
    Text.isHigh n.toUInt16 = decide (0xd800 ≤ n ∧ n < 0xdc00) := by
  rw [Bool.eq_iff_iff, Text.isHigh_iff, Text.toNat_toUInt16 h, decide_eq_true_iff]

theorem readEscape_unit {c : Char} {ds : List Char} (h : HexDigits c.toNat ds) (rest : Bytes) :
    readEscape (0x75 :: (utf8 ds ++ rest)) = .ok (c, rest) := by
  obtain ⟨hu, hn⟩ := readUnit_utf8 h rest
  have hc := Text.not_surrogate c
  have h1 : ¬ (0xdc00 ≤ c.toNat ∧ c.toNat < 0xe000) := by omega
  have h2 : ¬ (0xd800 ≤ c.toNat ∧ c.toNat < 0xdc00) := by omega
  simp only [readEscape, if_true, hu, isLow_toUInt16 hn, isHigh_toUInt16 hn, decide_eq_false h1,
    decide_eq_false h2, Bool.false_eq_true, if_false, Char.ofNat_toNat]

theorem readEscape_pair {c : Char} {high low : Nat} {ds es : List Char} (hd : HexDigits high ds)
    (he : HexDigits low es) (hh : 0xd800 ≤ high ∧ high < 0xdc00) (hl : 0xdc00 ≤ low ∧ low < 0xe000)
    (hc : c.toNat = 0x10000 + (high - 0xd800) * 0x400 + (low - 0xdc00)) (rest : Bytes) :
    readEscape (0x75 :: (utf8 ds ++ 0x5c :: 0x75 :: (utf8 es ++ rest))) = .ok (c, rest) := by
  obtain ⟨hu, hn⟩ := readUnit_utf8 hd (0x5c :: 0x75 :: (utf8 es ++ rest))
  obtain ⟨hv, hm⟩ := readUnit_utf8 he rest
  have h1 : ¬ (0xdc00 ≤ high ∧ high < 0xe000) := by omega
  have hpair : Text.pairChar high.toUInt16 low.toUInt16 = c := by
    rw [Text.pairChar, Text.toNat_toUInt16 hn, Text.toNat_toUInt16 hm, ← hc, Char.ofNat_toNat]
  simp only [readEscape, if_true, hu, isLow_toUInt16 hn, isHigh_toUInt16 hn, decide_eq_false h1,
    decide_eq_true hh, Bool.false_eq_true, if_false, readLowHalf, hv, isLow_toUInt16 hm,
    decide_eq_true hl, hpair]

theorem readEscape_letter {e c : Char} (h : (e, c) ∈ escapeLetters) (rest : Bytes) :
    readEscape (e.toNat.toUInt8 :: rest) = .ok (c, rest) := by
  simp only [escapeLetters, List.mem_cons, Prod.mk.injEq, List.not_mem_nil, or_false] at h
  rcases h with ⟨rfl, rfl⟩ | ⟨rfl, rfl⟩ | ⟨rfl, rfl⟩ | ⟨rfl, rfl⟩ | ⟨rfl, rfl⟩ | ⟨rfl, rfl⟩ |
    ⟨rfl, rfl⟩ | ⟨rfl, rfl⟩ <;> rfl

/-! ### what stands between quotes -/

def IsPlain (b : UInt8) : Prop := b ≠ 0x22 ∧ b ≠ 0x5c ∧ ¬ b < 0x20

theorem isPlain_of_le {b : UInt8} (h : 0x80 ≤ b.toNat) : IsPlain b := by
  refine ⟨?_, ?_, ?_⟩
  · rintro rfl
    exact absurd h (by decide)
  · rintro rfl
    exact absurd h (by decide)
  · rw [UInt8.lt_iff_toNat_lt]
    have : (0x20 : UInt8).toNat = 32 := rfl
    omega

theorem isPlain_of_raw {c : Char} (hc : 0x20 ≤ c.toNat) (hq : c ≠ '"') (hb : c ≠ '\\') :
    ∀ b ∈ String.utf8EncodeChar c, IsPlain b := by
  intro b hmem
  by_cases h : c.toNat < 0x80
  · rw [utf8EncodeChar_ascii h, List.mem_singleton] at hmem
    have hn : b.toNat = c.toNat := by rw [hmem, toNat_ascii h]
    refine ⟨?_, ?_, ?_⟩
    · rintro rfl
      exact hq (Char.toNat_inj.mp hn.symm)
    · rintro rfl
      exact hb (Char.toNat_inj.mp hn.symm)
    · rw [UInt8.lt_iff_toNat_lt, hn]
      exact Nat.not_lt.mpr hc
  · exact isPlain_of_le (le_of_mem_utf8EncodeChar (Nat.not_lt.mp h) hmem)

theorem stringBytes_plain {bs : Bytes} (h : ∀ b ∈ bs, IsPlain b) (spelt rest : Bytes) :
    stringBytes spelt (bs ++ rest) = stringBytes (bs.reverse ++ spelt) rest := by
  induction bs generalizing spelt with
  | nil => rfl
  | cons b bs ih =>
    obtain ⟨hq, hb, hc⟩ := h b List.mem_cons_self
    rw [List.cons_append, stringBytes, if_neg hq, if_neg hb, if_neg hc,
      ih fun x hx => h x (List.mem_cons_of_mem b hx), List.reverse_cons, List.append_assoc]
    rfl

theorem skipString_plain {bs : Bytes} (h : ∀ b ∈ bs, IsPlain b) (rest : Bytes) :
    skipString (bs ++ rest) = skipString rest := by
  induction bs with
  | nil => rfl
  | cons b bs ih =>
    obtain ⟨hq, hb, hc⟩ := h b List.mem_cons_self
    rw [List.cons_append, skipString, if_neg hq, if_neg hb, if_neg hc,
      ih fun x hx => h x (List.mem_cons_of_mem b hx)]

theorem stringBytes_escape {bs rest : Bytes} {c : Char} (h : readEscape bs = .ok (c, rest))
    (spelt : Bytes) :
    stringBytes spelt (0x5c :: bs) =
      stringBytes ((String.utf8EncodeChar c).reverse ++ spelt) rest := by
  rw [stringBytes, if_neg (by decide), if_pos rfl]
  split
  · next h' =>
    rw [h] at h'
    cases h'
    rfl
  · next h' =>
    rw [h] at h'
    cases h'

theorem skipString_escape {bs rest : Bytes} (h : skipEscape bs = .ok rest) :
    skipString (0x5c :: bs) = skipString rest := by
  rw [skipString, if_neg (by decide), if_pos rfl]
  split
  · next h' =>
    rw [h] at h'
    cases h'
    rfl
  · next h' =>
    rw [h] at h'
    cases h'

theorem skipEscape_unit {n : Nat} {ds : List Char} (h : HexDigits n ds) (rest : Bytes) :
    skipEscape (0x75 :: (utf8 ds ++ rest)) = .ok rest := by
  simp only [skipEscape, if_true, (readUnit_utf8 h rest).1]

theorem skipEscape_letter {e c : Char} (h : (e, c) ∈ escapeLetters) (rest : Bytes) :
    skipEscape (e.toNat.toUInt8 :: rest) = .ok rest := by
  simp only [escapeLetters, List.mem_cons, Prod.mk.injEq, List.not_mem_nil, or_false] at h
  rcases h with ⟨rfl, rfl⟩ | ⟨rfl, rfl⟩ | ⟨rfl, rfl⟩ | ⟨rfl, rfl⟩ | ⟨rfl, rfl⟩ | ⟨rfl, rfl⟩ |
    ⟨rfl, rfl⟩ | ⟨rfl, rfl⟩ <;> rfl

theorem toNat_lt_of_mem_escapeLetters {e c : Char} (h : (e, c) ∈ escapeLetters) :
    e.toNat < 0x80 := by
  simp only [escapeLetters, List.mem_cons, Prod.mk.injEq, List.not_mem_nil, or_false] at h
  rcases h with ⟨rfl, _⟩ | ⟨rfl, _⟩ | ⟨rfl, _⟩ | ⟨rfl, _⟩ | ⟨rfl, _⟩ | ⟨rfl, _⟩ | ⟨rfl, _⟩ |
    ⟨rfl, _⟩ <;> decide

/-! ### characters and texts -/

theorem utf8_letter {e : Char} (h : e.toNat < 0x80) :
    utf8 ['\\', e] = 0x5c :: [e.toNat.toUInt8] := by
  show 0x5c :: utf8 [e] = _
  rw [utf8_cons_ascii h]
  rfl

theorem utf8_unit (ds : List Char) : utf8 ('\\' :: 'u' :: ds) = 0x5c :: 0x75 :: utf8 ds := rfl

theorem stringBytes_char {c : Char} {ds : List Char} (h : SpellsChar c ds) (spelt rest : Bytes) :
    stringBytes spelt (utf8 ds ++ rest) =
      stringBytes ((String.utf8EncodeChar c).reverse ++ spelt) rest := by
  cases h with
  | raw hc hq hb =>
    rw [utf8_cons, utf8_nil, List.append_nil]
    exact stringBytes_plain (isPlain_of_raw hc hq hb) spelt rest
  | letter h =>
    rw [utf8_letter (toNat_lt_of_mem_escapeLetters h)]
    exact stringBytes_escape (readEscape_letter h rest) spelt
  | unit h => exact stringBytes_escape (readEscape_unit h rest) spelt
  | pair hd he hh hl hc =>
    rw [utf8_append, utf8_unit, utf8_unit, List.append_assoc]
    exact stringBytes_escape (readEscape_pair hd he hh hl hc rest) spelt

theorem skipString_char {c : Char} {ds : List Char} (h : SpellsChar c ds) (rest : Bytes) :
    skipString (utf8 ds ++ rest) = skipString rest := by
  cases h with
  | raw hc hq hb =>
    rw [utf8_cons, utf8_nil, List.append_nil]
    exact skipString_plain (isPlain_of_raw hc hq hb) rest
  | letter h =>
    rw [utf8_letter (toNat_lt_of_mem_escapeLetters h)]
    exact skipString_escape (skipEscape_letter h rest)
  | unit h => exact skipString_escape (skipEscape_unit h rest)
  | pair hd he hh hl hc =>
    -- the two halves of a pair are two escapes to a reader that does not decode them
    rw [utf8_append, utf8_unit, utf8_unit, List.append_assoc]
    refine (skipString_escape (skipEscape_unit hd _)).trans ?_
    exact skipString_escape (skipEscape_unit he rest)

theorem stringBytes_text {s cs : List Char} (h : SpellsText s cs) (spelt rest : Bytes) :
    stringBytes spelt (utf8 cs ++ 0x22 :: rest) = .ok (spelt.reverse ++ utf8 s, rest) := by
  induction h generalizing spelt with
  | nil => simp [utf8_nil, stringBytes]
  | cons hc hs ih =>
    rw [utf8_append, List.append_assoc, stringBytes_char hc, ih, utf8_cons, List.reverse_append,
      List.reverse_reverse, List.append_assoc]

theorem readString_text {s : String} {cs : List Char} (h : SpellsText s.toList cs) (rest : Bytes) :
    readString (utf8 cs ++ 0x22 :: rest) = .ok (s, rest) := by
  have hd : Text.decode? ([].reverse ++ utf8 s.toList) = some s := by
    rw [← encode_eq_utf8]
    exact Text.decode?_encode s
  rw [readString, stringBytes_text h]
  simp only [hd]

theorem skipString_text {s cs : List Char} (h : SpellsText s cs) (rest : Bytes) :
    skipString (utf8 cs ++ 0x22 :: rest) = .ok rest := by
  induction h with
  | nil => rw [utf8_nil, List.nil_append, skipString, if_pos rfl]
  | cons hc hs ih => rw [utf8_append, List.append_assoc, skipString_char hc, ih]

end ServiceDiagram.Json
