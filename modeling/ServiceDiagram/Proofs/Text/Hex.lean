import Mathlib.Algebra.Group.Nat.Defs
import Mathlib.Data.List.Induction
import ServiceDiagram.Text.Hex

/-!
# Hexadecimal digits are read as they are written

* `IsHexDigit c`         the characters that are digits, in either case;
* `SpellsNumber n ds`    the digits of a number, each in either case;
* `hexNumber?_spelt`     they are read as the number;
* `isSome_hexNumber?`    digits, and nothing else, are read as some number.
-/

namespace ServiceDiagram.Text

/-! ### characters by their numbers -/

theorem char_le_iff (a b : Char) : a ≤ b ↔ a.toNat ≤ b.toNat := UInt32.le_iff_toNat_le

theorem toNat_toLower (c : Char) :
    c.toLower.toNat = if 65 ≤ c.toNat ∧ c.toNat ≤ 90 then c.toNat + 32 else c.toNat := by
  unfold Char.toLower
  split
  · next h =>
    have hrange : 65 ≤ c.val.toNat ∧ c.val.toNat ≤ 90 := h
    have hshift : ('a'.val - 'A'.val).toNat = 32 := rfl
    show (c.val + ('a'.val - 'A'.val)).toNat = if 65 ≤ c.val.toNat ∧ c.val.toNat ≤ 90 then _ else _
    rw [if_pos hrange, UInt32.toNat_add, hshift]
    exact Nat.mod_eq_of_lt (by omega)
  · next h =>
    have hrange : ¬ (65 ≤ c.toNat ∧ c.toNat ≤ 90) := h
    rw [if_neg hrange]

/-! ### one digit -/

/-- **A hexadecimal digit** -/
def IsHexDigit (c : Char) : Prop :=
  ('0' ≤ c ∧ c ≤ '9') ∨ ('a' ≤ c ∧ c ≤ 'f') ∨ ('A' ≤ c ∧ c ≤ 'F')

instance (c : Char) : Decidable (IsHexDigit c) :=
  inferInstanceAs (Decidable (('0' ≤ c ∧ c ≤ '9') ∨ ('a' ≤ c ∧ c ≤ 'f') ∨ ('A' ≤ c ∧ c ≤ 'F')))

variable {c d : Char} {ds : List Char} {n v : Nat}

theorem hexValue?_eq (c : Char) : hexValue? c =
    if 48 ≤ c.toNat ∧ c.toNat ≤ 57 then some (c.toNat - 48)
    else if 97 ≤ c.toNat ∧ c.toNat ≤ 102 then some (c.toNat - 87)
    else if 65 ≤ c.toNat ∧ c.toNat ≤ 70 then some (c.toNat - 55)
    else none := by
  simp only [hexValue?, char_le_iff]
  rfl

theorem isSome_hexValue? : (hexValue? c).isSome ↔ IsHexDigit c := by
  unfold hexValue? IsHexDigit
  split
  · next h => exact iff_of_true rfl (Or.inl h)
  · next h0 =>
    split
    · next h => exact iff_of_true rfl (Or.inr (Or.inl h))
    · next ha =>
      split
      · next h => exact iff_of_true rfl (Or.inr (Or.inr h))
      · next hA =>
        refine iff_of_false Bool.false_ne_true ?_
        rintro (h | h | h)
        · exact h0 h
        · exact ha h
        · exact hA h

theorem toNat_lt_of_hexValue? (h : hexValue? c = some n) : c.toNat < 0x80 ∧ n < 16 := by
  rw [hexValue?_eq] at h
  split at h
  · cases h; omega
  · split at h
    · cases h; omega
    · split at h
      · cases h; omega
      · cases h

theorem hexValue?_toLower (c : Char) : hexValue? c.toLower = hexValue? c := by
  rw [hexValue?_eq, hexValue?_eq, toNat_toLower]
  by_cases h : 65 ≤ c.toNat ∧ c.toNat ≤ 90
  · grind
  · rw [if_neg h]

theorem hexValue?_hexDigit : ∀ v < 16, hexValue? (hexDigit v) = some v := by decide

/-! ### numbers -/

/-- **The digits of a number**, each in either case -/
def SpellsNumber (n : Nat) (ds : List Char) : Prop :=
  n < 16 ^ ds.length ∧ ds.map Char.toLower = hexDigits ds.length n

theorem hexNumber?_concat (ds : List Char) (d : Char) :
    hexNumber? (ds ++ [d]) = (hexNumber? ds).bind fun n => (hexValue? d).map (16 * n + ·) := by
  unfold hexNumber?
  rw [List.foldlM_append]
  simp only [List.foldlM_cons, List.foldlM_nil, Option.bind_eq_bind, Option.pure_def,
    Option.bind_fun_some]

theorem hexNumber?_lt (h : hexNumber? ds = some n) : n < 16 ^ ds.length := by
  induction ds using List.reverseRecOn generalizing n with
  | nil =>
    cases h
    exact Nat.one_pos
  | append_singleton ds d ih =>
    rw [hexNumber?_concat, Option.bind_eq_some_iff] at h
    obtain ⟨m, hm, hd⟩ := h
    obtain ⟨v, hv, rfl⟩ := Option.map_eq_some_iff.mp hd
    have hfront := ih hm
    have hlast := (toNat_lt_of_hexValue? hv).2
    rw [List.length_append, List.length_singleton, Nat.pow_succ]
    omega

theorem isSome_hexNumber? : (hexNumber? ds).isSome ↔ ∀ d ∈ ds, IsHexDigit d := by
  induction ds using List.reverseRecOn with
  | nil => exact iff_of_true rfl (List.forall_mem_nil _)
  | append_singleton ds d ih =>
    rw [hexNumber?_concat, List.forall_mem_append, List.forall_mem_singleton, ← ih,
      ← isSome_hexValue?]
    cases hexNumber? ds with
    | none => simp
    | some n => simp

/-- **The digits of a number are read as the number.** -/
theorem hexNumber?_spelt (h : SpellsNumber n ds) : hexNumber? ds = some n := by
  induction ds using List.reverseRecOn generalizing n with
  | nil =>
    obtain rfl : n = 0 := Nat.lt_one_iff.mp h.1
    rfl
  | append_singleton ds d ih =>
    obtain ⟨hn, hds⟩ := h
    rw [List.length_append, List.length_singleton] at hn hds
    rw [List.map_append, hexDigits] at hds
    obtain ⟨hfront, hlast⟩ := List.append_inj' hds rfl
    have hquot : n / 16 < 16 ^ ds.length := by
      rw [Nat.pow_succ] at hn
      omega
    have hd : hexValue? d = some (n % 16) := by
      rw [← hexValue?_toLower, (List.cons.inj hlast).1]
      exact hexValue?_hexDigit _ (Nat.mod_lt n (by decide))
    rw [hexNumber?_concat, ih ⟨hquot, hfront⟩, Option.bind_some, hd, Option.map_some,
      Nat.div_add_mod]

end ServiceDiagram.Text
