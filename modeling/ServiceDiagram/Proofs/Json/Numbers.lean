import ServiceDiagram.Json.Skip
import ServiceDiagram.Proofs.Json.Bytes
import ServiceDiagram.Proofs.Json.Grammar

/-!
# Numbers are passed over as they are spelled

A number has no end of its own: `skipNumber` goes on as long as a digit, a point or an exponent
follows.  Behind a value of a document none of them can follow, which is `Ends`.
-/

namespace ServiceDiagram.Json

/-- what may follow a value: a blank, a comma, a closing bracket or brace, or nothing -/
def Ends (rest : Bytes) : Prop :=
  ∀ b ∈ rest.head?, isBlank b = true ∨ b = 0x2c ∨ b = 0x5d ∨ b = 0x7d

theorem isBlank_iff {b : UInt8} : isBlank b = true ↔ b = 0x20 ∨ b = 0x09 ∨ b = 0x0a ∨ b = 0x0d := by
  simp [isBlank, or_assoc]

theorem Ends.cases {b : UInt8} {bs : Bytes} (h : Ends (b :: bs)) :
    b = 0x20 ∨ b = 0x09 ∨ b = 0x0a ∨ b = 0x0d ∨ b = 0x2c ∨ b = 0x5d ∨ b = 0x7d := by
  rcases h b rfl with hb | hb | hb | hb
  · rcases isBlank_iff.mp hb with h | h | h | h <;> simp [h]
  · simp [hb]
  · simp [hb]
  · simp [hb]

theorem ends_nil : Ends [] := by
  intro b hb
  cases hb

/-! ### runs of digits -/

def NoDigit (bs : Bytes) : Prop := ∀ b ∈ bs.head?, isDigit b = false

theorem noDigit_cons {b : UInt8} (h : isDigit b = false) (bs : Bytes) : NoDigit (b :: bs) := by
  intro x hx
  cases hx
  exact h

theorem Ends.noDigit {rest : Bytes} (h : Ends rest) : NoDigit rest := by
  cases rest with
  | nil => intro b hb; cases hb
  | cons b bs =>
    rcases h.cases with rfl | rfl | rfl | rfl | rfl | rfl | rfl <;> exact noDigit_cons rfl bs

theorem isDigit_iff (b : UInt8) : isDigit b = true ↔ 48 ≤ b.toNat ∧ b.toNat ≤ 57 := by
  have h1 : (48 : UInt8).toNat = 48 := rfl
  have h2 : (57 : UInt8).toNat = 57 := rfl
  unfold isDigit digit?
  split
  · next h =>
    rw [UInt8.le_iff_toNat_le, UInt8.le_iff_toNat_le, h1, h2] at h
    simp [h]
  · next h =>
    rw [UInt8.le_iff_toNat_le, UInt8.le_iff_toNat_le, h1, h2] at h
    simp [h]

theorem digit_byte {d : Char} (h : '0' ≤ d ∧ d ≤ '9') (ds : List Char) :
    utf8 (d :: ds) = d.toNat.toUInt8 :: utf8 ds ∧ isDigit d.toNat.toUInt8 = true ∧
      (d.toNat.toUInt8 = 0x30 ↔ d = '0') := by
  have h1 : 48 ≤ d.toNat := UInt32.le_iff_toNat_le.mp h.1
  have h2 : d.toNat ≤ 57 := UInt32.le_iff_toNat_le.mp h.2
  have hd : d.toNat < 0x80 := by omega
  refine ⟨utf8_cons_ascii hd ds, ?_, ?_⟩
  · rw [isDigit_iff, toNat_ascii hd]
    exact ⟨h1, h2⟩
  · constructor
    · intro e
      have := congrArg UInt8.toNat e
      rw [toNat_ascii hd] at this
      exact Char.toNat_inj.mp this
    · rintro rfl
      rfl

theorem skipDigits_digits {ds : List Char} (h : ∀ d ∈ ds, '0' ≤ d ∧ d ≤ '9') {rest : Bytes}
    (hr : NoDigit rest) : skipDigits (utf8 ds ++ rest) = rest := by
  induction ds with
  | nil =>
    cases rest with
    | nil => rfl
    | cons b bs =>
      show List.dropWhile isDigit (b :: bs) = b :: bs
      rw [List.dropWhile_cons_of_neg]
      rw [hr b rfl]
      exact Bool.false_ne_true
  | cons d ds ih =>
    obtain ⟨e, hd, -⟩ := digit_byte (h d List.mem_cons_self) ds
    rw [e]
    show List.dropWhile isDigit (_ :: (utf8 ds ++ rest)) = rest
    rw [List.dropWhile_cons_of_pos hd]
    exact ih fun x hx => h x (List.mem_cons_of_mem d hx)

theorem skipSomeDigits_digits {ds : List Char} (h : AreDigits ds) {rest : Bytes}
    (hr : NoDigit rest) : skipSomeDigits (utf8 ds ++ rest) = .ok rest := by
  obtain ⟨hne, hds⟩ := h
  cases ds with
  | nil => exact absurd rfl hne
  | cons d ds =>
    obtain ⟨e, hd, -⟩ := digit_byte (hds d List.mem_cons_self) ds
    rw [e, List.cons_append, skipSomeDigits, if_pos hd,
      skipDigits_digits (fun x hx => hds x (List.mem_cons_of_mem d hx)) hr]

/-! ### exponent, fraction, number -/

theorem skipSign_sign {sign ds : List Char} (hs : sign = [] ∨ sign = ['+'] ∨ sign = ['-'])
    (hd : AreDigits ds) (rest : Bytes) :
    skipSign (utf8 (sign ++ ds) ++ rest) = utf8 ds ++ rest := by
  rcases hs with rfl | rfl | rfl
  · obtain ⟨hne, hds⟩ := hd
    cases ds with
    | nil => exact absurd rfl hne
    | cons d ds =>
      obtain ⟨e, hd, -⟩ := digit_byte (hds d List.mem_cons_self) ds
      rw [List.nil_append, e]
      have h1 : d.toNat.toUInt8 ≠ 0x2b := by
        intro h
        rw [h] at hd
        exact absurd hd (by decide)
      have h2 : d.toNat.toUInt8 ≠ 0x2d := by
        intro h
        rw [h] at hd
        exact absurd hd (by decide)
      rw [List.cons_append, skipSign, if_neg (not_or.mpr ⟨h1, h2⟩)]
  · rfl
  · rfl

theorem skipExponent_text {e : Exponent} (h : e.Valid) {rest : Bytes} (hr : Ends rest) :
    skipExponent (utf8 e.text ++ rest) = .ok rest := by
  have hd := skipSomeDigits_digits h.digits hr.noDigit
  have hs := skipSign_sign h.sign h.digits rest
  have key : ∀ b : UInt8, b = 0x65 ∨ b = 0x45 →
      skipExponent (b :: (utf8 (e.sign ++ e.digits) ++ rest)) = .ok rest := by
    intro b hb
    rw [skipExponent, if_pos hb, hs, hd]
  unfold Exponent.text
  rcases h.letter with hl | hl
  · rw [hl]
    exact key 0x65 (Or.inl rfl)
  · rw [hl]
    exact key 0x45 (Or.inr rfl)

theorem skipExponent_ends {rest : Bytes} (h : Ends rest) : skipExponent rest = .ok rest := by
  cases rest with
  | nil => rfl
  | cons b bs =>
    rcases h.cases with rfl | rfl | rfl | rfl | rfl | rfl | rfl <;> rfl

theorem skipExponent_numeral {n : Numeral} (h : n.Valid) {rest : Bytes} (hr : Ends rest) :
    skipExponent (utf8 n.exponentText ++ rest) = .ok rest := by
  unfold Numeral.exponentText
  cases he : n.exponent with
  | none => exact skipExponent_ends hr
  | some e => exact skipExponent_text (h.exponent e he) hr

/-- what follows the digits of a number is neither a digit nor, without a fraction, a point -/
theorem exponentText_head {n : Numeral} (h : n.Valid) {rest : Bytes} (hr : Ends rest) :
    NoDigit (utf8 n.exponentText ++ rest) ∧
      ∀ b ∈ (utf8 n.exponentText ++ rest).head?, b ≠ 0x2e := by
  unfold Numeral.exponentText
  cases he : n.exponent with
  | none =>
    refine ⟨hr.noDigit, ?_⟩
    intro b hb
    cases rest with
    | nil => cases hb
    | cons c cs =>
      cases hb
      rcases hr.cases with rfl | rfl | rfl | rfl | rfl | rfl | rfl <;> decide
  | some e =>
    show NoDigit (utf8 (e.letter :: (e.sign ++ e.digits)) ++ rest) ∧ _
    have hl := (h.exponent e he).letter
    constructor
    · rcases hl with hl | hl <;> rw [hl] <;> exact noDigit_cons rfl _
    · intro b hb
      change b ∈ (utf8 (e.letter :: (e.sign ++ e.digits)) ++ rest).head? at hb
      rcases hl with hl | hl <;> rw [hl] at hb <;> cases hb <;> decide

theorem skipFraction_numeral {n : Numeral} (h : n.Valid) {rest : Bytes} (hr : Ends rest) :
    skipFraction (utf8 (n.fractionText ++ n.exponentText) ++ rest) = .ok rest := by
  have he := skipExponent_numeral h hr
  obtain ⟨hnd, hnp⟩ := exponentText_head h hr
  rw [utf8_append, List.append_assoc]
  unfold Numeral.fractionText
  cases hd : n.decimals with
  | none =>
    show skipFraction (utf8 n.exponentText ++ rest) = .ok rest
    generalize utf8 n.exponentText ++ rest = bs at he hnp
    cases bs with
    | nil => rw [← he]; rfl
    | cons b bs => rw [skipFraction, if_neg (hnp b rfl), he]
  | some ds =>
    show skipFraction (0x2e :: (utf8 ds ++ (utf8 n.exponentText ++ rest))) = .ok rest
    rw [skipFraction, if_pos rfl, skipSomeDigits_digits (h.decimals ds hd) hnd]
    exact he

theorem fraction_noDigit {n : Numeral} (h : n.Valid) {rest : Bytes} (hr : Ends rest) :
    NoDigit (utf8 (n.fractionText ++ n.exponentText) ++ rest) := by
  rw [utf8_append, List.append_assoc]
  unfold Numeral.fractionText
  cases n.decimals with
  | none => exact (exponentText_head h hr).1
  | some ds => exact noDigit_cons rfl _

theorem skipNumber_unsigned {n : Numeral} (h : n.Valid) {rest : Bytes} (hr : Ends rest) :
    skipNumber (utf8 n.unsigned ++ rest) = .ok rest := by
  have hf := skipFraction_numeral h hr
  have hnd := fraction_noDigit h hr
  unfold Numeral.unsigned
  rw [utf8_append, List.append_assoc]
  generalize utf8 (n.fractionText ++ n.exponentText) ++ rest = bs at hf hnd
  obtain ⟨hne, hds⟩ := h.whole
  rcases h.leading with hz | hz
  · rw [hz]
    show skipNumber (0x30 :: bs) = .ok rest
    cases bs with
    | nil => rw [← hf]; rfl
    | cons b bs =>
      have hb : ¬ isDigit b = true := by rw [hnd b rfl]; exact Bool.false_ne_true
      unfold skipNumber
      simp only [if_true, if_neg hb, hf]
  · cases hw : n.whole with
    | nil => exact absurd hw hne
    | cons d ds =>
      rw [hw] at hds hz
      obtain ⟨e, hd, h0⟩ := digit_byte (hds d List.mem_cons_self) ds
      have hd0 : d.toNat.toUInt8 ≠ 0x30 := by
        intro e0
        rw [h0.mp e0] at hz
        exact hz rfl
      rw [e, List.cons_append]
      unfold skipNumber
      simp only [if_neg hd0, if_pos hd]
      rw [skipDigits_digits (fun x hx => hds x (List.mem_cons_of_mem d hx)) hnd, hf]

end ServiceDiagram.Json
