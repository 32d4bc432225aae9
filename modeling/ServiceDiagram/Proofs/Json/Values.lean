import ServiceDiagram.Proofs.Json.Numbers
import ServiceDiagram.Proofs.Json.Strings

/-!
# How values begin and how they are passed over

The first byte of a value tells what it is (`Value.Opens`), and no value begins with a blank, a
comma or a closing bracket.  `skipValue` passes over one value of any depth, whatever frames are
open around it: `skipOpen_value`, by induction on the spelling.  -/

namespace ServiceDiagram.Json

/-! ### blanks -/

theorem skipBlanks_of_not {b : UInt8} (h : isBlank b = false) (bs : Bytes) :
    skipBlanks (b :: bs) = b :: bs := by
  rw [skipBlanks, List.dropWhile_cons_of_neg]
  rw [h]
  exact Bool.false_ne_true

theorem utf8_blank {c : Char} (h : c = ' ' ∨ c = '\t' ∨ c = '\n' ∨ c = '\r') (cs : List Char) :
    ∃ b, utf8 (c :: cs) = b :: utf8 cs ∧ isBlank b = true := by
  rcases h with rfl | rfl | rfl | rfl
  · exact ⟨0x20, rfl, rfl⟩
  · exact ⟨0x09, rfl, rfl⟩
  · exact ⟨0x0a, rfl, rfl⟩
  · exact ⟨0x0d, rfl, rfl⟩

theorem skipBlanks_blanks {cs : List Char} (h : AreBlanks cs) (bs : Bytes) :
    skipBlanks (utf8 cs ++ bs) = skipBlanks bs := by
  induction cs with
  | nil => rfl
  | cons c cs ih =>
    obtain ⟨b, e, hb⟩ := utf8_blank (h c List.mem_cons_self) cs
    rw [e]
    show List.dropWhile isBlank (b :: (utf8 cs ++ bs)) = _
    rw [List.dropWhile_cons_of_pos hb]
    exact ih fun x hx => h x (List.mem_cons_of_mem c hx)

theorem skipBlanks_to {cs : List Char} (h : AreBlanks cs) {b : UInt8} (hb : isBlank b = false)
    (bs : Bytes) : skipBlanks (utf8 cs ++ b :: bs) = b :: bs := by
  rw [skipBlanks_blanks h, skipBlanks_of_not hb]

theorem ends_blanks {cs : List Char} (h : AreBlanks cs) {rest : Bytes} (hr : Ends rest) :
    Ends (utf8 cs ++ rest) := by
  cases cs with
  | nil => exact hr
  | cons c cs =>
    obtain ⟨b, e, hb⟩ := utf8_blank (h c List.mem_cons_self) cs
    rw [e]
    intro x hx
    cases hx
    exact Or.inl hb

theorem ends_comma (bs : Bytes) : Ends (0x2c :: bs) := by
  intro x hx
  cases hx
  exact Or.inr (Or.inl rfl)

theorem ends_bracket (bs : Bytes) : Ends (0x5d :: bs) := by
  intro x hx
  cases hx
  exact Or.inr (Or.inr (Or.inl rfl))

theorem ends_brace (bs : Bytes) : Ends (0x7d :: bs) := by
  intro x hx
  cases hx
  exact Or.inr (Or.inr (Or.inr rfl))

/-! ### the first byte of a value -/

def Value.Opens : Value → UInt8 → Prop
  | .null, b => b = 0x6e
  | .boolean true, b => b = 0x74
  | .boolean false, b => b = 0x66
  | .number _, b => b = 0x2d ∨ isDigit b = true
  | .string _, b => b = 0x22
  | .array _, b => b = 0x5b
  | .object _, b => b = 0x7b

theorem Spells.opens {v : Value} {t : List Char} (h : Spells v t) :
    ∃ b bs, utf8 t = b :: bs ∧ v.Opens b := by
  cases h with
  | null => exact ⟨0x6e, _, rfl, rfl⟩
  | wordTrue => exact ⟨0x74, _, rfl, rfl⟩
  | wordFalse => exact ⟨0x66, _, rfl, rfl⟩
  | @number n h =>
    unfold Numeral.text Numeral.unsigned
    obtain ⟨hne, hds⟩ := h.whole
    cases hw : n.whole with
    | nil => exact absurd hw hne
    | cons d ds =>
      rw [hw] at hds
      cases n.negative with
      | true => exact ⟨0x2d, _, rfl, Or.inl rfl⟩
      | false =>
        obtain ⟨e, hd, -⟩ :=
          digit_byte (hds d List.mem_cons_self) (ds ++ (n.fractionText ++ n.exponentText))
        exact ⟨_, _, e, Or.inr hd⟩
  | string h => exact ⟨0x22, _, rfl, rfl⟩
  | noItems h => exact ⟨0x5b, _, rfl, rfl⟩
  | array hne hb h => exact ⟨0x5b, _, rfl, rfl⟩
  | noMembers h => exact ⟨0x7b, _, rfl, rfl⟩
  | object hne hb hk h => exact ⟨0x7b, _, rfl, rfl⟩

theorem Value.Opens.ordinary {v : Value} {b : UInt8} (h : v.Opens b) :
    isBlank b = false ∧ b ≠ 0x2c ∧ b ≠ 0x5d ∧ b ≠ 0x7d := by
  match v, h with
  | .null, rfl => decide
  | .boolean true, rfl => decide
  | .boolean false, rfl => decide
  | .number _, Or.inl rfl => decide
  | .number _, Or.inr h =>
    refine ⟨?_, ?_, ?_, ?_⟩
    · cases hb : isBlank b with
      | false => rfl
      | true =>
        rcases isBlank_iff.mp hb with rfl | rfl | rfl | rfl <;> exact absurd h (by decide)
    all_goals
      rintro rfl
      exact absurd h (by decide)
  | .string _, rfl => decide
  | .array _, rfl => decide
  | .object _, rfl => decide

theorem Value.Opens.form {v : Value} {b : UInt8} (h : v.Opens b) :
    (b = 0x6e → v = .null) ∧ (b = 0x22 → ∃ s, v = .string s) ∧
      (b = 0x5b → ∃ items, v = .array items) ∧ (b = 0x7b → ∃ members, v = .object members) := by
  match v, h with
  | .null, rfl => simp
  | .boolean true, rfl => simp
  | .boolean false, rfl => simp
  | .number _, h =>
    change _ ∨ _ at h
    refine ⟨?_, ?_, ?_, ?_⟩
    all_goals
      rintro rfl
      exact absurd h (by decide)
  | .string _, rfl => simp
  | .array _, rfl => simp
  | .object _, rfl => simp

theorem skipBlanks_value {v : Value} {t b : List Char} (h : Spells v t) (hb : AreBlanks b)
    (rest : Bytes) : skipBlanks (utf8 (b ++ t) ++ rest) = utf8 t ++ rest := by
  obtain ⟨x, xs, e, ho⟩ := h.opens
  rw [utf8_append, List.append_assoc, e]
  exact skipBlanks_to hb ho.ordinary.1 _

/-! ### skipping step by step -/

section
variable {bs rest : Bytes} {b : UInt8}

theorem skipOpen_value (stack : List Frame) (h : skipBlanks bs = b :: rest) :
    skipOpen .value stack bs =
      if b = 0x5b then skipOpen .first (.list :: stack) rest
      else if b = 0x7b then skipOpen .first (.object :: stack) rest
      else (skipLeaf (b :: rest)).bind (skipOpen .next stack) := by
  conv => lhs; rw [skipOpen.eq_def]
  simp only
  split
  · next h' => rw [h] at h'; cases h'
  · next h' =>
    rw [h] at h'
    cases h'
    congr 2
    split <;> next e => rw [e]; rfl

theorem skipOpen_first (frame : Frame) (outer : List Frame) (h : skipBlanks bs = b :: rest) :
    skipOpen .first (frame :: outer) bs =
      if b = frame.close then skipOpen .next outer rest
      else match frame with
        | .list => skipOpen .value (.list :: outer) bs
        | .object => (skipKey bs).bind (skipOpen .value (.object :: outer)) := by
  conv => lhs; rw [skipOpen.eq_def]
  simp only
  split
  · next h' => rw [h] at h'; cases h'
  · next h' =>
    rw [h] at h'
    cases h'
    congr 1
    cases frame with
    | list => rfl
    | object =>
      simp only
      split <;> next e => rw [e]; rfl

theorem skipOpen_next (frame : Frame) (outer : List Frame) (h : skipBlanks bs = b :: rest) :
    skipOpen .next (frame :: outer) bs =
      if b = frame.close then skipOpen .next outer rest
      else if b = 0x2c then
        match frame with
        | .list => skipOpen .value (.list :: outer) rest
        | .object => (skipKey rest).bind (skipOpen .value (.object :: outer))
      else .error frame.noComma := by
  conv => lhs; rw [skipOpen.eq_def]
  simp only
  split
  · next h' => rw [h] at h'; cases h'
  · next h' =>
    rw [h] at h'
    cases h'
    congr 2
    cases frame with
    | list => rfl
    | object =>
      simp only
      split <;> next e => rw [e]; rfl

end

end ServiceDiagram.Json
