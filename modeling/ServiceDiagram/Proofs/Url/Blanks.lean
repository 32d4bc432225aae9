import Mathlib.Data.List.DropRight
import ServiceDiagram.Proofs.Json.Bytes
import ServiceDiagram.Proofs.Text.Hex
import ServiceDiagram.Proofs.Text.Utf16
import ServiceDiagram.Url.Reader

/-!
# Hosts have no blanks

A blank or a control character at the end of a host makes it none (`checkHost_blank`).  In a name it
stays what it is: it is no part of a percent escape, folding leaves it alone, and no label may have it,
not even one that spells other characters in ASCII (`not_isLabel`).
-/

namespace ServiceDiagram.Url

open Text Json

variable {c : Char} {cs host blanks : List Char}

/-! ### characters -/

theorem not_isHexDigit (h : c.toNat ≤ 0x20) : ¬ IsHexDigit c := by
  rw [← isSome_hexValue?, hexValue?_eq]
  rw [if_neg (by omega), if_neg (by omega), if_neg (by omega)]
  exact Bool.false_ne_true

theorem isDisallowed_of_le (h : c.toNat ≤ 0x20) : isDisallowed c = true := by
  have hascii : c.toNat < 0x80 := Nat.lt_of_le_of_lt h (by decide)
  unfold isDisallowed isForbidden
  rw [if_pos hascii, decide_eq_true h, Bool.true_or, Bool.true_or]

theorem foldChar_of_le (h : c.toNat ≤ 0x20) : foldChar c = [c] := by
  have hascii : c.toNat < 0x80 := Nat.lt_of_le_of_lt h (by decide)
  have hsmall : c.toLower = c := by
    apply Char.toNat_inj.mp
    rw [toNat_toLower, if_neg (by omega)]
  unfold foldChar
  rw [if_pos hascii, hsmall]

/-! ### the bytes of a name -/

theorem mem_utf8_iff (h : c.toNat < 0x80) : c.toNat.toUInt8 ∈ utf8 cs ↔ c ∈ cs := by
  constructor
  · intro hb
    obtain ⟨d, hd, hbd⟩ := List.mem_flatMap.mp hb
    by_cases hascii : d.toNat < 0x80
    · rw [utf8EncodeChar_ascii hascii, List.mem_singleton] at hbd
      have hnat := congrArg UInt8.toNat hbd
      rw [toNat_ascii h, toNat_ascii hascii] at hnat
      obtain rfl := Char.toNat_inj.mp hnat
      exact hd
    · have hge := le_of_mem_utf8EncodeChar (Nat.not_lt.mp hascii) hbd
      rw [toNat_ascii h] at hge
      omega
  · intro hc
    refine List.mem_flatMap.mpr ⟨c, hc, ?_⟩
    rw [utf8EncodeChar_ascii h]
    exact List.mem_cons_self

theorem mem_percentDecode {b : UInt8} {bs : Bytes} (hb : b.toNat ≤ 0x20) (h : b ∈ bs) :
    b ∈ percentDecode bs := by
  fun_induction percentDecode bs with
  | case1 => exact h
  | case2 x y rest n hn ih =>
    -- the two bytes behind the percent sign are digits
    have hdigits := isSome_hexNumber?.mp (Option.isSome_of_eq_some hn)
    have hne : ∀ z : UInt8, IsHexDigit (Char.ofNat z.toNat) → b ≠ z := by
      rintro z hz rfl
      refine not_isHexDigit ?_ hz
      have hvalid : b.toNat.isValidChar := Or.inl (Nat.lt_of_le_of_lt hb (by decide))
      rw [toNat_ofNat hvalid]
      exact hb
    have hsign : b ≠ 0x25 := by
      rintro rfl
      exact absurd hb (by decide)
    have hx := hne x (hdigits _ List.mem_cons_self)
    have hy := hne y (hdigits _ (List.mem_cons_of_mem _ List.mem_cons_self))
    have hrest : b ∈ rest := by simpa [hsign, hx, hy] using h
    exact List.mem_cons_of_mem _ (ih hrest)
  | case3 x y rest hn ih =>
    rcases List.mem_cons.mp h with rfl | h
    · exact List.mem_cons_self
    · exact List.mem_cons_of_mem _ (ih h)
  | case4 x rest _ ih =>
    rcases List.mem_cons.mp h with rfl | h
    · exact List.mem_cons_self
    · exact List.mem_cons_of_mem _ (ih h)

theorem mem_nameOf? {name : List Char} (hc : c.toNat ≤ 0x20) (h : c ∈ host)
    (hname : nameOf? host = some name) : c ∈ name := by
  have hascii : c.toNat < 0x80 := Nat.lt_of_le_of_lt hc (by decide)
  obtain ⟨s, hs, rfl⟩ := Option.map_eq_some_iff.mp hname
  have hbytes : c.toNat.toUInt8 ∈ utf8 host := (mem_utf8_iff hascii).mpr h
  have hdecoded : c.toNat.toUInt8 ∈ percentDecode (utf8 host) := by
    refine mem_percentDecode ?_ hbytes
    rw [toNat_ascii hascii]
    exact hc
  rw [encode_ofList] at hs
  rw [← encode_of_decode? hs, encode_eq_utf8, mem_utf8_iff hascii] at hdecoded
  refine List.mem_flatMap.mpr ⟨c, hdecoded, ?_⟩
  rw [foldChar_of_le hc]
  exact List.mem_cons_self

/-! ### labels -/

theorem not_isPlainLabel (hc : c.toNat ≤ 0x20) (h : c ∈ cs) : isPlainLabel cs = false := by
  have hany : cs.any isDisallowed = true := List.any_eq_true.mpr ⟨c, h, isDisallowed_of_le hc⟩
  unfold isPlainLabel
  rw [hany]
  rfl

namespace Punycode

theorem digit?_of_le (h : c.toNat ≤ 0x20) : digit? c = none := by
  have hle : ∀ a : Char, 0x20 < a.toNat → ¬ a ≤ c := by
    intro a ha hac
    rw [char_le_iff] at hac
    omega
  unfold digit?
  rw [if_neg fun hr => hle 'a' (by decide) hr.1, if_neg fun hr => hle 'A' (by decide) hr.1,
    if_neg fun hr => hle '0' (by decide) hr.1]

theorem State.mem_insert? {s s' : State} {place : Nat} (h : s.insert? place = some s')
    (hc : c ∈ s.placed) : c ∈ s'.placed := by
  obtain ⟨_, h⟩ := Option.dite_none_right_eq_some.mp h
  cases h
  rw [← List.take_append_drop (place % (s.placed.length + 1)) s.placed] at hc
  rcases List.mem_append.mp hc with hc | hc
  · exact List.mem_append_left _ hc
  · exact List.mem_append_right _ (List.mem_cons_of_mem _ hc)

theorem ne_of_digit? {d : Char} {v : Nat} (hc : c.toNat ≤ 0x20) (hd : digit? d = some v) : c ≠ d := by
  rintro rfl
  rw [digit?_of_le hc] at hd
  cases hd

/-- characters in place stay in place, and there are digits only behind them -/
theorem mem_insertions? {s : State} {number : Option (Nat × Nat × Nat)} {ds out : List Char}
    (h : insertions? s number ds = some out) (hc : c.toNat ≤ 0x20) (hmem : c ∈ s.placed ∨ c ∈ ds) :
    c ∈ out := by
  fun_induction insertions? s number ds with
  | case1 s =>
    cases h
    exact hmem.resolve_right List.not_mem_nil
  | case2 => cases h
  | case3 => cases h
  | case4 => cases h
  | case5 s number d rest _ _ _ _ v hdigit _ _ _ _ s' hinsert ih =>
    refine ih h ?_
    rcases hmem with hmem | hmem
    · exact Or.inl (State.mem_insert? hinsert hmem)
    · exact Or.inr ((List.mem_cons.mp hmem).resolve_left (ne_of_digit? hc hdigit))
  | case6 => cases h
  | case7 => cases h
  | case8 s number d rest _ _ _ _ v hdigit _ _ _ _ _ ih =>
    refine ih h ?_
    rcases hmem with hmem | hmem
    · exact Or.inl hmem
    · exact Or.inr ((List.mem_cons.mp hmem).resolve_left (ne_of_digit? hc hdigit))

/-- only the hyphen at which it is cut is lost of a label -/
theorem mem_splitHyphen (hc : c ≠ '-') (h : c ∈ cs) :
    c ∈ (splitHyphen cs).1 ∨ c ∈ (splitHyphen cs).2 := by
  have hcut : cs.rdropWhile (· != '-') ++ cs.rtakeWhile (· != '-') = cs :=
    List.rdropWhile_append_rtakeWhile
  have hbehind : (splitHyphen cs).2 = cs.rtakeWhile (· != '-') := rfl
  have hfront : (splitHyphen cs).1 = (cs.rdropWhile (· != '-')).dropLast := by
    have hlength : cs.length - (cs.rtakeWhile (· != '-')).length - 1 =
        (cs.rdropWhile (· != '-')).length - 1 := by
      have hsum := congrArg List.length hcut
      rw [List.length_append] at hsum
      omega
    have htake : (splitHyphen cs).1 =
        cs.take (cs.length - (cs.rtakeWhile (· != '-')).length - 1) := rfl
    have hsame := congrArg (List.take ((cs.rdropWhile (· != '-')).length - 1)) hcut
    rw [htake, hlength, ← hsame, List.take_append_of_le_length (Nat.sub_le _ _),
      List.dropLast_eq_take]
  rw [hfront, hbehind]
  rw [← hcut] at h
  rcases List.mem_append.mp h with h | h
  · have hne := List.ne_nil_of_mem h
    have hlast : (cs.rdropWhile (· != '-')).getLast hne = '-' := by
      have hstop := List.rdropWhile_last_not (· != '-') cs hne
      simpa using hstop
    rw [← List.dropLast_append_getLast hne, hlast] at h
    rcases List.mem_append.mp h with h | h
    · exact Or.inl h
    · exact absurd (List.mem_singleton.mp h) hc
  · exact Or.inr h

theorem mem_decode? {out : List Char} (h : decode? cs = some out) (hc : c.toNat ≤ 0x20)
    (hmem : c ∈ cs) : c ∈ out := by
  have hne : c ≠ '-' := by
    rintro rfl
    exact absurd hc (by decide)
  unfold decode? at h
  simp only at h
  split at h
  · cases h
  · exact mem_insertions? h hc (mem_splitHyphen hne hmem)

end Punycode

theorem not_isLabel (hc : c.toNat ≤ 0x20) (h : c ∈ cs) : isLabel cs = false := by
  unfold isLabel
  split
  · next rest =>
    have hne : ∀ a : Char, 0x20 < a.toNat → c ≠ a := by
      rintro a ha rfl
      omega
    have hrest : c ∈ rest := by
      have hx := hne 'x' (by decide)
      have hn := hne 'n' (by decide)
      have hhyphen := hne '-' (by decide)
      simpa [hx, hn, hhyphen] using h
    split
    · next out hout =>
      rw [not_isPlainLabel hc (Punycode.mem_decode? hout hc hrest), Bool.and_false]
    · rfl
  · exact not_isPlainLabel hc h

/-! ### hosts -/

theorem checkName_blank (hc : c.toNat ≤ 0x20) (h : c ∈ host) : checkName host ≠ .ok () := by
  unfold checkName
  split
  · exact nofun
  · next name hname =>
    have hdot : c ≠ '.' := by
      rintro rfl
      exact absurd hc (by decide)
    obtain ⟨label, hlabel, hmem⟩ := exists_mem_parts (mem_nameOf? hc h hname) hdot
    have hall : (labels name).all isLabel = false :=
      List.all_eq_false.mpr ⟨label, hlabel, by rw [not_isLabel hc hmem]; exact Bool.false_ne_true⟩
    rw [hall]
    exact nofun

/-- **A host does not end with blanks**, be it a name or a number in brackets. -/
theorem checkHost_blank (hhost : host ≠ []) (hne : blanks ≠ [])
    (hblanks : ∀ c ∈ blanks, c.toNat ≤ 0x20) : checkHost (host ++ blanks) ≠ .ok () := by
  cases host with
  | nil => exact absurd rfl hhost
  | cons a cs =>
    obtain ⟨c, hc⟩ := List.exists_mem_of_ne_nil blanks hne
    by_cases ha : a = '['
    · obtain rfl := ha
      have hlast : (cs ++ blanks).getLast? ≠ some ']' := by
        rw [List.getLast?_append_of_ne_nil cs hne]
        intro he
        have hmem : ']' ∈ blanks := List.mem_of_getLast? he
        exact absurd (hblanks _ hmem) (by decide)
      show checkBrackets (cs ++ blanks) ≠ .ok ()
      unfold checkBrackets
      rw [if_neg fun h => hlast h.1]
      exact nofun
    · have hname : checkHost (a :: cs ++ blanks) = checkName (a :: cs ++ blanks) := by
        unfold checkHost
        split
        · next he => exact absurd (List.cons.inj he).1 ha
        · rfl
      rw [hname]
      exact checkName_blank (hblanks c hc) (List.mem_append_right _ hc)

end ServiceDiagram.Url
