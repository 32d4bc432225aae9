import ServiceDiagram.Payload.Alphabet

/-!
# Six-bit characters are read back

`decode64?_encode64`: the characters of a sequence of bytes give the bytes again, and as many zero
bytes (`fill`) as make their number a multiple of three.
-/

namespace ServiceDiagram.Payload

/-- the number of zero bytes behind `n` bytes that fill the last group of three -/
def fill (n : Nat) : Nat := (3 - n % 3) % 3

theorem fill_le (n : Nat) : fill n ≤ 2 := by
  unfold fill
  omega

theorem fill_add_three (n : Nat) : fill (n + 3) = fill n := by
  unfold fill
  rw [Nat.add_mod_right]

/-- a sequence with the zeros that fill its last group -/
def filled (bs : Bytes) : Bytes := bs ++ List.replicate (fill bs.length) 0

/-! ### single characters -/

theorem forall_byte {p : UInt8 → Prop} (h : ∀ v : BitVec 8, p ⟨v⟩) (v : UInt8) : p v := h v.toBitVec

theorem value?_digit : ∀ v : UInt8, value? (digit v) = some (v &&& 0x3f) := forall_byte (by decide)

theorem digit_ne_tilde : ∀ v : UInt8, digit v ≠ '~' := forall_byte (by decide)

theorem exists_digit_of_mem {c : Char} {bs : Bytes} (h : c ∈ encode64 bs) : ∃ v, c = digit v := by
  have hgroup : ∀ x y z, c ∈ group x y z → ∃ v, c = digit v := by
    intro x y z hc
    simp only [group, List.mem_cons, List.not_mem_nil, or_false] at hc
    rcases hc with hc | hc | hc | hc <;> exact ⟨_, hc⟩
  fun_induction encode64 bs with
  | case1 => exact absurd h List.not_mem_nil
  | case2 x => exact hgroup _ _ _ h
  | case3 x y => exact hgroup _ _ _ h
  | case4 x y z rest ih => exact (List.mem_append.mp h).elim (hgroup _ _ _) ih

theorem tilde_not_mem (bs : Bytes) : '~' ∉ encode64 bs := by
  intro h
  obtain ⟨v, hv⟩ := exists_digit_of_mem h
  exact digit_ne_tilde v hv.symm

/-! ### groups -/

theorem or_and_distrib (x y mask : UInt8) : (x ||| y) &&& mask = x &&& mask ||| y &&& mask :=
  UInt8.toBitVec_inj.mp BitVec.and_or_distrib_right

section
variable (a b c : UInt8)

theorem first_of_group :
    (a >>> 2 &&& 0x3f) <<< 2 ||| (((a &&& 0x3) <<< 4 ||| b >>> 4) &&& 0x3f) >>> 4 = a := by
  have ha : ∀ a : UInt8,
      (a >>> 2 &&& 0x3f) <<< 2 ||| ((a &&& 0x3) <<< 4 &&& 0x3f) >>> 4 = a := forall_byte (by decide)
  have hb : ∀ b : UInt8, (b >>> 4 &&& 0x3f) >>> 4 = 0 := forall_byte (by decide)
  rw [or_and_distrib, UInt8.shiftRight_or, hb, UInt8.or_zero, ha]

theorem second_of_group :
    (((a &&& 0x3) <<< 4 ||| b >>> 4) &&& 0x3f) <<< 4 |||
      (((b &&& 0xf) <<< 2 ||| c >>> 6) &&& 0x3f) >>> 2 = b := by
  have ha : ∀ a : UInt8, ((a &&& 0x3) <<< 4 &&& 0x3f) <<< 4 = 0 := forall_byte (by decide)
  have hb : ∀ b : UInt8,
      (b >>> 4 &&& 0x3f) <<< 4 ||| ((b &&& 0xf) <<< 2 &&& 0x3f) >>> 2 = b := forall_byte (by decide)
  have hc : ∀ c : UInt8, (c >>> 6 &&& 0x3f) >>> 2 = 0 := forall_byte (by decide)
  rw [or_and_distrib, or_and_distrib, UInt8.shiftLeft_or, UInt8.shiftRight_or, ha, hc,
    UInt8.zero_or, UInt8.or_zero, hb]

theorem third_of_group :
    (((b &&& 0xf) <<< 2 ||| c >>> 6) &&& 0x3f) <<< 6 ||| (c &&& 0x3f &&& 0x3f) = c := by
  have hb : ∀ b : UInt8, ((b &&& 0xf) <<< 2 &&& 0x3f) <<< 6 = 0 := forall_byte (by decide)
  have hc : ∀ c : UInt8, (c >>> 6 &&& 0x3f) <<< 6 ||| (c &&& 0x3f &&& 0x3f) = c :=
    forall_byte (by decide)
  rw [or_and_distrib, UInt8.shiftLeft_or, hb, UInt8.zero_or, hc]

theorem decode64?_group (rest : List Char) :
    decode64? (group a b c ++ rest) = (decode64? rest).map ([a, b, c] ++ ·) := by
  show decode64? (digit _ :: digit _ :: digit _ :: digit _ :: rest) = _
  rw [decode64?]
  simp only [value?_digit, Option.bind_eq_bind, Option.bind_some, first_of_group, second_of_group,
    third_of_group]
  cases decode64? rest <;> rfl

end

/-- **The bytes are read back**, and the zero bytes that fill the last group. -/
theorem decode64?_encode64 (bs : Bytes) : decode64? (encode64 bs) = some (filled bs) := by
  unfold filled
  fun_induction encode64 bs with
  | case1 => rfl
  | case2 x =>
    have h := decode64?_group x 0 0 []
    rwa [List.append_nil] at h
  | case3 x y =>
    have h := decode64?_group x y 0 []
    rwa [List.append_nil] at h
  | case4 x y z rest ih =>
    rw [decode64?_group, ih]
    show some ([x, y, z] ++ _) = some (_ ++ List.replicate (fill (rest.length + 3)) 0)
    rw [fill_add_three, ← List.append_assoc]
    rfl

end ServiceDiagram.Payload
