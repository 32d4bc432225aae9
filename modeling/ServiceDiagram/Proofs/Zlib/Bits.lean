import Mathlib.Algebra.Group.Nat.Defs
import ServiceDiagram.Zlib.Fixed

/-!
# Numbers and bytes as bits

What is written in bits is read back, whatever bits stand behind it: numbers (`takeNumber?_lowFirst`),
codes, also the front of a longer code (`takeCode?_highFirst`), and bytes, with less than eight zeros at
their end (`unpack_pack`).
-/

namespace ServiceDiagram.Zlib

/-! ### numbers -/

theorem length_lowFirst (k n : Nat) : (lowFirst k n).length = k := by
  induction k generalizing n with
  | zero => rfl
  | succ k ih => rw [lowFirst, List.length_cons, ih]

theorem length_highFirst (k n : Nat) : (highFirst k n).length = k := by
  rw [highFirst, List.length_reverse, length_lowFirst]

theorem ofLowFirst_lowFirst (k n : Nat) : ofLowFirst (lowFirst k n) = n % 2 ^ k := by
  induction k generalizing n with
  | zero => rw [lowFirst, ofLowFirst, Nat.pow_zero, Nat.mod_one]
  | succ k ih =>
    rw [lowFirst, ofLowFirst, ih, Nat.pow_succ, Nat.mul_comm (2 ^ k) 2, Nat.mod_mul]
    rcases Nat.mod_two_eq_zero_or_one n with h | h <;> simp [h]

theorem lowFirst_add (j k n : Nat) : lowFirst (j + k) n = lowFirst j n ++ lowFirst k (n / 2 ^ j) := by
  induction j generalizing n with
  | zero => rw [Nat.zero_add, Nat.pow_zero, Nat.div_one, lowFirst, List.nil_append]
  | succ j ih =>
    rw [Nat.succ_add, lowFirst, lowFirst, ih, Nat.div_div_eq_div_mul, Nat.pow_succ,
      Nat.mul_comm 2, List.cons_append]

theorem takeNumber?_lowFirst {k n : Nat} (h : n < 2 ^ k) (rest : List Bool) :
    takeNumber? k (lowFirst k n ++ rest) = some (n, rest) := by
  have hk : (lowFirst k n).length = k := length_lowFirst k n
  rw [takeNumber?, if_pos (by rw [List.length_append, hk]; omega), List.take_left' hk,
    List.drop_left' hk, ofLowFirst_lowFirst, Nat.mod_eq_of_lt h]

/-- the first `k` bits of a code of `j + k` bits are a code themselves -/
theorem takeCode?_highFirst {j k n : Nat} (h : n < 2 ^ (j + k)) (rest : List Bool) :
    takeCode? k (highFirst (j + k) n ++ rest) = some (n / 2 ^ j, highFirst j n ++ rest) := by
  have hcut : highFirst (j + k) n ++ rest = highFirst k (n / 2 ^ j) ++ (highFirst j n ++ rest) := by
    rw [highFirst, lowFirst_add, List.reverse_append, List.append_assoc]
    rfl
  have hk : (highFirst k (n / 2 ^ j)).length = k := length_highFirst k _
  have hlt : n / 2 ^ j < 2 ^ k :=
    Nat.div_lt_of_lt_mul (by rw [← Nat.pow_add]; exact h)
  rw [hcut, takeCode?, if_pos (by rw [List.length_append, hk]; omega), List.take_left' hk,
    List.drop_left' hk, highFirst, List.reverse_reverse, ofLowFirst_lowFirst, Nat.mod_eq_of_lt hlt]

theorem takeCode?_whole {k n : Nat} (h : n < 2 ^ k) (rest : List Bool) :
    takeCode? k (highFirst k n ++ rest) = some (n, rest) := by
  have h' : n < 2 ^ (0 + k) := by rwa [Nat.zero_add]
  have hfront := takeCode?_highFirst h' rest
  rwa [Nat.zero_add, Nat.pow_zero, Nat.div_one] at hfront

/-! ### bytes -/

theorem ofLowFirst_lt (bits : List Bool) : ofLowFirst bits < 2 ^ bits.length := by
  induction bits with
  | nil => exact Nat.one_pos
  | cons b bits ih =>
    rw [ofLowFirst, List.length_cons, Nat.pow_succ]
    have hb : b.toNat ≤ 1 := Bool.toNat_le b
    omega

theorem lowFirst_ofLowFirst (k : Nat) (bits : List Bool) :
    lowFirst (bits.length + k) (ofLowFirst bits) = bits ++ List.replicate k false := by
  induction bits with
  | nil =>
    rw [List.length_nil, Nat.zero_add, ofLowFirst, List.nil_append]
    induction k with
    | zero => rfl
    | succ k ih => rw [lowFirst, Nat.zero_div, ih, List.replicate_succ]; rfl
  | cons b bits ih =>
    have hdiv : (b.toNat + 2 * ofLowFirst bits) / 2 = ofLowFirst bits := by
      have hb : b.toNat ≤ 1 := Bool.toNat_le b
      omega
    have hmod : ((b.toNat + 2 * ofLowFirst bits) % 2 == 1) = b := by
      cases b <;> simp [Nat.add_mul_mod_self_left]
    rw [List.length_cons, Nat.succ_add, ofLowFirst, lowFirst, hdiv, hmod, ih, List.cons_append]

theorem unpack_append (bs cs : Bytes) : unpack (bs ++ cs) = unpack bs ++ unpack cs :=
  List.flatMap_append

theorem length_unpack (bs : Bytes) : (unpack bs).length = 8 * bs.length := by
  induction bs with
  | nil => rfl
  | cons b bs ih =>
    have hcons : unpack (b :: bs) = lowFirst 8 b.toNat ++ unpack bs := List.flatMap_cons
    rw [hcons, List.length_append, length_lowFirst, ih, List.length_cons]
    omega

theorem pack_nil : pack [] = [] := by
  rw [pack]
  rfl

theorem pack_of_ne_nil {bits : List Bool} (h : bits ≠ []) :
    pack bits = (ofLowFirst (bits.take 8)).toUInt8 :: pack (bits.drop 8) := by
  rw [pack, if_neg (by rw [List.isEmpty_iff]; exact h)]

theorem lowFirst_toUInt8 (bits : List Bool) :
    lowFirst 8 (ofLowFirst (bits.take 8)).toUInt8.toNat =
      bits.take 8 ++ List.replicate (8 - bits.length) false := by
  have hlen : (bits.take 8).length = min 8 bits.length := List.length_take
  have hlt : ofLowFirst (bits.take 8) < 2 ^ 8 :=
    Nat.lt_of_lt_of_le (ofLowFirst_lt _) (Nat.pow_le_pow_right Nat.two_pos (by omega))
  have hbyte : (ofLowFirst (bits.take 8)).toUInt8.toNat = ofLowFirst (bits.take 8) :=
    Nat.mod_eq_of_lt hlt
  have h8 : (bits.take 8).length + (8 - bits.length) = 8 := by omega
  have hbits := lowFirst_ofLowFirst (8 - bits.length) (bits.take 8)
  rw [h8] at hbits
  rw [hbyte, hbits]

/-- **Bytes hold the bits that were packed into them**, and zeros that fill the last one. -/
theorem unpack_pack (bits : List Bool) :
    ∃ k < 8, unpack (pack bits) = bits ++ List.replicate k false := by
  by_cases h : bits = []
  · exact ⟨0, by omega, by rw [h, pack_nil]; rfl⟩
  · have hcons : unpack (pack bits) =
        lowFirst 8 (ofLowFirst (bits.take 8)).toUInt8.toNat ++ unpack (pack (bits.drop 8)) := by
      rw [pack_of_ne_nil h]
      exact List.flatMap_cons
    rw [hcons, lowFirst_toUInt8]
    by_cases h8 : bits.length < 8
    · -- this is the last byte
      refine ⟨8 - bits.length, by have := List.length_pos_iff.mpr h; omega, ?_⟩
      rw [List.drop_of_length_le (by omega), List.take_of_length_le (by omega), pack_nil]
      exact List.append_nil _
    · have : (bits.drop 8).length < bits.length := by rw [List.length_drop]; omega
      obtain ⟨k, hk, ih⟩ := unpack_pack (bits.drop 8)
      refine ⟨k, hk, ?_⟩
      rw [ih, Nat.sub_eq_zero_of_le (by omega), List.replicate_zero, List.append_nil,
        ← List.append_assoc, List.take_append_drop]
termination_by bits.length

end ServiceDiagram.Zlib
