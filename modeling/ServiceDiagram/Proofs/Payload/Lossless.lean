import ServiceDiagram.Proofs.Payload.Alphabet

/-!
# Six-bit characters lose nothing

`decode64?_encode64` gives the bytes of a sequence back, and the zeros that fill its last group.  Here
is the other direction: characters of the alphabet, four by four, are read as bytes, and these bytes are
written as the same characters (`exists_decode64?`).  A sequence and the same sequence filled are
written alike (`encode64_filled`), so sequences are written alike exactly if they are the same once they
are filled (`encode64_eq_iff`).

* `InAlphabet c`   letters and digits, `-` and `_`;
* `IsSixBits v`    a value that one character holds.
-/

namespace ServiceDiagram.Payload

/-- **The alphabet** `0-9A-Za-z-_` -/
def InAlphabet (c : Char) : Prop := c.isAlphanum ∨ c = '-' ∨ c = '_'

instance (c : Char) : Decidable (InAlphabet c) :=
  inferInstanceAs (Decidable (c.isAlphanum ∨ c = '-' ∨ c = '_'))

def IsSixBits (v : UInt8) : Prop := v &&& 0x3f = v

instance (v : UInt8) : Decidable (IsSixBits v) := inferInstanceAs (Decidable (v &&& 0x3f = v))

variable {c : Char} {cs : List Char} {bs bs' : Bytes}

/-! ### single characters -/

theorem digit_inAlphabet : ∀ v : UInt8, InAlphabet (digit v) := forall_byte (by decide)

theorem InAlphabet.toNat_lt (h : InAlphabet c) : c.toNat < 128 := by
  rcases h with h | rfl | rfl
  · have hkinds : (c.isUpper || c.isLower || c.isDigit) = true := h
    have hle : c.val ≤ 'Z'.val ∨ c.val ≤ 'z'.val ∨ c.val ≤ '9'.val := by
      rw [Bool.or_eq_true, Bool.or_eq_true, or_assoc] at hkinds
      exact hkinds.imp (fun h => (of_decide_eq_true h).2)
        (Or.imp (fun h => of_decide_eq_true (Bool.and_eq_true_iff.mp h).2)
          fun h => of_decide_eq_true (Bool.and_eq_true_iff.mp h).2)
    rcases hle with h | h | h <;>
      exact Nat.lt_of_le_of_lt (UInt32.le_iff_toNat_le.mp h) (by decide)
  · decide
  · decide

/-- **A character of the alphabet has a value**, and is its digit. -/
theorem InAlphabet.exists_value (h : InAlphabet c) :
    ∃ v, value? c = some v ∧ IsSixBits v ∧ digit v = c := by
  have hascii : ∀ n < 128, InAlphabet (Char.ofNat n) →
      ∃ v ∈ value? (Char.ofNat n), IsSixBits v ∧ digit v = Char.ofNat n := by
    decide
  have hc := hascii c.toNat h.toNat_lt
  rw [Char.ofNat_toNat] at hc
  exact hc h

/-! ### groups -/

section
variable {a b c d : UInt8}

theorem first_of_values (ha : IsSixBits a) (hb : IsSixBits b) :
    digit ((a <<< 2 ||| b >>> 4) >>> 2) = digit a := by
  have hleft : ∀ a : UInt8, IsSixBits a → a <<< 2 >>> 2 = a := forall_byte (by decide)
  have hright : ∀ b : UInt8, IsSixBits b → b >>> 4 >>> 2 = 0 := forall_byte (by decide)
  rw [UInt8.shiftRight_or, hleft a ha, hright b hb, UInt8.or_zero]

theorem second_of_values (hb : IsSixBits b) (hc : IsSixBits c) :
    digit (((a <<< 2 ||| b >>> 4) &&& 0x3) <<< 4 ||| (b <<< 4 ||| c >>> 2) >>> 4) = digit b := by
  have hfirst : ∀ a : UInt8, a <<< 2 &&& 0x3 = 0 := forall_byte (by decide)
  have hsecond : ∀ b : UInt8, IsSixBits b → (b >>> 4 &&& 0x3) <<< 4 ||| b <<< 4 >>> 4 = b :=
    forall_byte (by decide)
  have hthird : ∀ c : UInt8, IsSixBits c → c >>> 2 >>> 4 = 0 := forall_byte (by decide)
  rw [or_and_distrib, hfirst, UInt8.zero_or, UInt8.shiftRight_or, hthird c hc, UInt8.or_zero,
    hsecond b hb]

theorem third_of_values (hc : IsSixBits c) (hd : IsSixBits d) :
    digit (((b <<< 4 ||| c >>> 2) &&& 0xf) <<< 2 ||| (c <<< 6 ||| d) >>> 6) = digit c := by
  have hfirst : ∀ b : UInt8, b <<< 4 &&& 0xf = 0 := forall_byte (by decide)
  have hsecond : ∀ c : UInt8, IsSixBits c → (c >>> 2 &&& 0xf) <<< 2 ||| c <<< 6 >>> 6 = c :=
    forall_byte (by decide)
  have hthird : ∀ d : UInt8, IsSixBits d → d >>> 6 = 0 := forall_byte (by decide)
  rw [or_and_distrib, hfirst, UInt8.zero_or, UInt8.shiftRight_or, hthird d hd, UInt8.or_zero,
    hsecond c hc]

theorem fourth_of_values (hd : IsSixBits d) : digit ((c <<< 6 ||| d) &&& 0x3f) = digit d := by
  have hleft : ∀ c : UInt8, c <<< 6 &&& 0x3f = 0 := forall_byte (by decide)
  rw [or_and_distrib, hleft, UInt8.zero_or, hd]

theorem group_of_values (ha : IsSixBits a) (hb : IsSixBits b) (hc : IsSixBits c)
    (hd : IsSixBits d) :
    group (a <<< 2 ||| b >>> 4) (b <<< 4 ||| c >>> 2) (c <<< 6 ||| d) =
      [digit a, digit b, digit c, digit d] := by
  rw [group, first_of_values ha hb, second_of_values hb hc, third_of_values hc hd,
    fourth_of_values hd]

end

/-- **Characters of the alphabet are read**, four by four, and written again. -/
theorem exists_decode64? (hcs : ∀ c ∈ cs, InAlphabet c) (h4 : 4 ∣ cs.length) :
    ∃ bs, decode64? cs = some bs ∧ encode64 bs = cs := by
  fun_induction decode64? cs with
  | case1 => exact ⟨[], rfl, rfl⟩
  | case2 w x y z rest ih =>
    obtain ⟨hw, hx, hy, hz, hrest⟩ : InAlphabet w ∧ InAlphabet x ∧ InAlphabet y ∧ InAlphabet z ∧
        ∀ c ∈ rest, InAlphabet c := by
      simpa only [List.forall_mem_cons] using hcs
    obtain ⟨a, ha, ha6, rfl⟩ := hw.exists_value
    obtain ⟨b, hb, hb6, rfl⟩ := hx.exists_value
    obtain ⟨c, hc, hc6, rfl⟩ := hy.exists_value
    obtain ⟨d, hd, hd6, rfl⟩ := hz.exists_value
    have hlength : 4 ∣ rest.length := (Nat.dvd_add_left (Nat.dvd_refl 4)).mp h4
    obtain ⟨bs, hbs, hwritten⟩ := ih hrest hlength
    refine ⟨(a <<< 2 ||| b >>> 4) :: (b <<< 4 ||| c >>> 2) :: (c <<< 6 ||| d) :: bs, ?_, ?_⟩
    · rw [ha, hb, hc, hd, hbs]
      rfl
    · rw [encode64, group_of_values ha6 hb6 hc6 hd6, hwritten]
      rfl
  | case3 cs hnil hfour =>
    match cs, h4 with
    | [], _ => exact absurd rfl hnil
    | [_], h4 => exact absurd h4 (show ¬ 4 ∣ 1 by decide)
    | [_, _], h4 => exact absurd h4 (show ¬ 4 ∣ 2 by decide)
    | [_, _, _], h4 => exact absurd h4 (show ¬ 4 ∣ 3 by decide)
    | w :: x :: y :: z :: rest, _ => exact absurd rfl (hfour w x y z rest)

/-! ### sequences -/

theorem dvd_add_fill (n : Nat) : 3 ∣ n + fill n := by
  unfold fill
  omega

/-- no fewer zeros fill the last group -/
theorem fill_le_of_dvd {n k : Nat} (h : 3 ∣ n + k) : fill n ≤ k := by
  unfold fill
  omega

theorem length_encode64 (bs : Bytes) : (encode64 bs).length = (bs.length + 2) / 3 * 4 := by
  have hgroup : ∀ x y z, (group x y z).length = 4 := fun _ _ _ => rfl
  fun_induction encode64 bs with
  | case1 => rfl
  | case2 x => simp [hgroup]
  | case3 x y => simp [hgroup]
  | case4 x y z rest ih =>
    rw [List.length_append, ih, hgroup]
    simp only [List.length_cons]
    omega

theorem encode64_inAlphabet (h : c ∈ encode64 bs) : InAlphabet c := by
  obtain ⟨v, rfl⟩ := exists_digit_of_mem h
  exact digit_inAlphabet v

theorem encode64_filled (bs : Bytes) : encode64 (filled bs) = encode64 bs := by
  have hlength : 4 ∣ (encode64 bs).length := by
    rw [length_encode64]
    exact Nat.dvd_mul_left 4 _
  obtain ⟨bs', hread, hwritten⟩ := exists_decode64? (fun _ => encode64_inAlphabet) hlength
  rw [decode64?_encode64] at hread
  cases hread
  exact hwritten

/-- **Two sequences are written alike exactly if they are the same once they are filled.** -/
theorem encode64_eq_iff : encode64 bs = encode64 bs' ↔ filled bs = filled bs' := by
  constructor
  · intro h
    have hread := decode64?_encode64 bs
    rw [h, decode64?_encode64] at hread
    exact (Option.some.inj hread).symm
  · intro h
    rw [← encode64_filled bs, h, encode64_filled]

/-- **Nothing is lost in six-bit characters.**  A sequence gives four characters of the alphabet for
each three bytes it has begun, and these give the sequence again with the fewest zeros that make
threes; any characters of the alphabet, four by four, are those of the bytes they give. -/
theorem encode64_lossless :
    (∀ bs, (encode64 bs).length = (bs.length + 2) / 3 * 4 ∧
      (∀ c ∈ encode64 bs, InAlphabet c) ∧
      ∃ zeros, decode64? (encode64 bs) = some (bs ++ List.replicate zeros 0) ∧
        3 ∣ bs.length + zeros ∧ ∀ k, 3 ∣ bs.length + k → zeros ≤ k) ∧
    (∀ cs : List Char, (∀ c ∈ cs, InAlphabet c) → 4 ∣ cs.length →
      ∃ bs, decode64? cs = some bs ∧ encode64 bs = cs) ∧
    ∀ bs bs', encode64 bs = encode64 bs' ↔ filled bs = filled bs' :=
  ⟨fun bs => ⟨length_encode64 bs, fun _ => encode64_inAlphabet, fill bs.length,
    decode64?_encode64 bs, dvd_add_fill _, fun _ => fill_le_of_dvd⟩,
    fun _ => exists_decode64?, fun _ _ => encode64_eq_iff⟩

/-- the digits of `Man`, and one byte with and without its zeros -/
theorem encode64_lossless_man :
    (∃ bs, decode64? "JM5k".toList = some bs ∧ encode64 bs = "JM5k".toList) ∧
      encode64 [0xff] = encode64 [0xff, 0, 0] := by
  have hman : ∀ c ∈ ['J', 'M', '5', 'k'], InAlphabet c := by
    simp only [List.mem_cons, List.not_mem_nil, or_false, forall_eq_or_imp, forall_eq]
    decide
  obtain ⟨-, hread, halike⟩ := encode64_lossless
  exact ⟨hread _ hman (by decide), (halike [0xff] [0xff, 0, 0]).mpr (by decide)⟩

end ServiceDiagram.Payload
