import ServiceDiagram.Text.Utf16

/-!
# Sixteen-bit units are read as they are written

The units of a text give the text (`ofUnits_flatMap_units`), whatever units stand behind those of a
character.  Other units give a text of the same length (`length_ofUnits`): a pair becomes a character
of two units, and a surrogate that stands alone one of one unit.
-/

namespace ServiceDiagram.Text

/-! ### surrogates -/

theorem toNat_toUInt16 {n : Nat} (h : n < 0x10000) : n.toUInt16.toNat = n :=
  UInt16.toNat_ofNat_of_lt' h

theorem isLow_iff {u : UInt16} : isLow u = true ↔ 0xdc00 ≤ u.toNat ∧ u.toNat < 0xe000 := by
  have h1 : (0xdc00 : UInt16).toNat = 0xdc00 := rfl
  have h2 : (0xdfff : UInt16).toNat = 0xdfff := rfl
  simp only [isLow, UInt16.le_iff_toNat_le, h1, h2, Bool.and_eq_true, decide_eq_true_eq]
  omega

theorem isHigh_iff {u : UInt16} : isHigh u = true ↔ 0xd800 ≤ u.toNat ∧ u.toNat < 0xdc00 := by
  have h1 : (0xd800 : UInt16).toNat = 0xd800 := rfl
  have h2 : (0xdbff : UInt16).toNat = 0xdbff := rfl
  simp only [isHigh, UInt16.le_iff_toNat_le, h1, h2, Bool.and_eq_true, decide_eq_true_eq]
  omega

theorem not_surrogate (c : Char) : ¬ (0xd800 ≤ c.toNat ∧ c.toNat < 0xe000) := by
  have h : c.toNat < 0xd800 ∨ 0xdfff < c.toNat ∧ c.toNat < 0x110000 := c.valid
  omega

/-! ### the units of a character -/

/-- **A character is one unit that is no surrogate, or a pair of them.** -/
theorem units_cases (c : Char) :
    (∃ u, units c = [u] ∧ isHigh u = false ∧ isLow u = false ∧ loneChar u = c) ∨
      ∃ high low, units c = [high, low] ∧ isHigh high = true ∧ isLow low = true ∧
        pairChar high low = c := by
  have hc := not_surrogate c
  by_cases h : c.toNat < 0x10000
  · have hu := toNat_toUInt16 h
    have hhigh : isHigh c.toNat.toUInt16 = false := by
      rw [Bool.eq_false_iff, ne_eq, isHigh_iff, hu]
      omega
    have hlow : isLow c.toNat.toUInt16 = false := by
      rw [Bool.eq_false_iff, ne_eq, isLow_iff, hu]
      omega
    refine Or.inl ⟨_, if_pos h, hhigh, hlow, ?_⟩
    rw [loneChar, hhigh, hlow, if_neg (by decide), hu, Char.ofNat_toNat]
  · have hmax : c.toNat < 0x110000 := by
      have hv : c.toNat < 0xd800 ∨ 0xdfff < c.toNat ∧ c.toNat < 0x110000 := c.valid
      omega
    have hhigh := toNat_toUInt16 (n := 0xd800 + (c.toNat - 0x10000) / 0x400) (by omega)
    have hlow := toNat_toUInt16 (n := 0xdc00 + (c.toNat - 0x10000) % 0x400) (by omega)
    refine Or.inr ⟨_, _, if_neg h, isHigh_iff.mpr (by omega), isLow_iff.mpr (by omega), ?_⟩
    have hsum : 0x10000 + (0xd800 + (c.toNat - 0x10000) / 0x400 - 0xd800) * 0x400 +
        (0xdc00 + (c.toNat - 0x10000) % 0x400 - 0xdc00) = c.toNat := by omega
    rw [pairChar, hhigh, hlow, hsum, Char.ofNat_toNat]

theorem units_ne_nil (c : Char) : units c ≠ [] := by
  rcases units_cases c with ⟨u, h, -⟩ | ⟨high, low, h, -⟩
  · rw [h]; exact List.cons_ne_nil _ _
  · rw [h]; exact List.cons_ne_nil _ _

/-! ### units and texts -/

theorem ofUnits_lone {u : UInt16} (h : isHigh u = false) (us : List UInt16) :
    ofUnits (u :: us) = loneChar u :: ofUnits us := by
  cases us with
  | nil => rfl
  | cons v us => rw [ofUnits, h, Bool.false_and, if_neg Bool.false_ne_true]

theorem ofUnits_units_append (c : Char) (us : List UInt16) :
    ofUnits (units c ++ us) = c :: ofUnits us := by
  rcases units_cases c with ⟨u, hu, hhigh, -, hc⟩ | ⟨high, low, hu, hhigh, hlow, hc⟩
  · rw [hu, List.singleton_append, ofUnits_lone hhigh, hc]
  · rw [hu, List.cons_append, List.singleton_append, ofUnits, hhigh, hlow, Bool.and_self,
      if_pos rfl, hc]

/-- **The units of a text are read as the text.** -/
theorem ofUnits_flatMap_units (cs : List Char) : ofUnits (cs.flatMap units) = cs := by
  induction cs with
  | nil => rfl
  | cons c cs ih => rw [List.flatMap_cons, ofUnits_units_append, ih]

/-! ### lengths -/

theorem toNat_ofNat {n : Nat} (h : n.isValidChar) : (Char.ofNat n).toNat = n := by
  unfold Char.ofNat
  rw [dif_pos h]
  rfl

theorem length_units_loneChar (u : UInt16) : (units (loneChar u)).length = 1 := by
  have hlt : (loneChar u).toNat < 0x10000 := by
    unfold loneChar
    split
    · decide
    · next h =>
      rw [Bool.or_eq_true, isHigh_iff, isLow_iff] at h
      have hu := u.toNat_lt
      have hvalid : u.toNat.isValidChar := by
        show u.toNat < 0xd800 ∨ 0xdfff < u.toNat ∧ u.toNat < 0x110000
        omega
      rw [toNat_ofNat hvalid]
      exact hu
  rw [units, if_pos hlt]
  rfl

theorem length_units_pairChar {high low : UInt16} (hh : isHigh high = true)
    (hl : isLow low = true) : (units (pairChar high low)).length = 2 := by
  rw [isHigh_iff] at hh
  rw [isLow_iff] at hl
  have hvalid : (0x10000 + (high.toNat - 0xd800) * 0x400 + (low.toNat - 0xdc00)).isValidChar := by
    show _ < 0xd800 ∨ 0xdfff < _ ∧ _ < 0x110000
    omega
  have hle : ¬ (pairChar high low).toNat < 0x10000 := by
    rw [pairChar, toNat_ofNat hvalid]
    omega
  rw [units, if_neg hle]
  rfl

/-- **As many units as are read the text has**, well-formed or not. -/
theorem length_ofUnits (us : List UInt16) : ((ofUnits us).flatMap units).length = us.length := by
  fun_induction ofUnits us with
  | case1 => rfl
  | case2 u =>
    rw [List.flatMap_singleton, length_units_loneChar]
    rfl
  | case3 u v rest h ih =>
    obtain ⟨hh, hl⟩ := Bool.and_eq_true_iff.mp h
    rw [List.flatMap_cons, List.length_append, length_units_pairChar hh hl, ih, List.length_cons,
      List.length_cons, Nat.add_comm]
  | case4 u v rest h ih =>
    rw [List.flatMap_cons, List.length_append, length_units_loneChar, ih, Nat.add_comm]
    rfl

theorem unitLength_ofUnits (us : List UInt16) :
    unitLength (String.ofList (ofUnits us)) = us.length := by
  rw [unitLength, String.toList_ofList, length_ofUnits]

end ServiceDiagram.Text
