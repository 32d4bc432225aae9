import ServiceDiagram.Zlib.Token

/-!
# Copies that agree

The search for copies may look where it likes: what it proposes was compared byte by byte, so that
the tokens of a text mean the text (`expand_tokens`), and each of them has a code (`Token.Coded`).

* `IsCopy data i n d`   the `n` bytes at the place `i` also stand `d` places back.
-/

namespace ServiceDiagram.Zlib

/-- **A copy that may be made**: it starts and reaches no further back than is allowed, and the bytes
are the same. -/
structure IsCopy (data : Array UInt8) (i n d : Nat) : Prop where
  length_le : n ≤ maxLength
  distance_pos : 0 < d
  distance_le : d ≤ maxDistance
  distance_le_place : d ≤ i
  same : ∀ k < n, ∃ b, data[i + k]? = some b ∧ data[i - d + k]? = some b

/-- a token whose numbers lie in the tables of the code -/
def Token.Coded : Token → Prop
  | .literal _ => True
  | .copy length distance =>
    (3 ≤ length ∧ length ≤ maxLength) ∧ 1 ≤ distance ∧ distance ≤ maxDistance

variable {data : Array UInt8} {i n d : Nat}

/-! ### finding copies -/

theorem agreement_le (data : Array UInt8) (i j limit : Nat) : agreement data i j limit ≤ limit := by
  fun_induction agreement data i j limit with
  | case1 => exact Nat.le_refl _
  | case2 i j limit a hj hi ih => exact Nat.succ_le_succ ih
  | case3 => exact Nat.zero_le _
  | case4 => exact Nat.zero_le _

theorem same_of_lt_agreement {j limit k : Nat} (h : k < agreement data i j limit) :
    ∃ b, data[i + k]? = some b ∧ data[j + k]? = some b := by
  fun_induction agreement data i j limit generalizing k with
  | case1 => exact absurd h (Nat.not_lt_zero k)
  | case2 i j limit a hj hi ih =>
    cases k with
    | zero => exact ⟨a, hi, hj⟩
    | succ k =>
      obtain ⟨c, hc⟩ := ih (Nat.lt_of_succ_lt_succ h)
      rw [Nat.add_right_comm i 1 k, Nat.add_right_comm j 1 k] at hc
      exact ⟨c, hc⟩
  | case3 => exact absurd h (Nat.not_lt_zero k)
  | case4 => exact absurd h (Nat.not_lt_zero k)

def IsProposal (data : Array UInt8) (i : Nat) (best : Nat × Nat) : Prop :=
  best.1 = 0 ∨ IsCopy data i best.1 best.2

theorem better_isProposal {best : Nat × Nat} (h : IsProposal data i best) (j : Nat) :
    IsProposal data i (better data i best j) := by
  unfold better
  split
  · next hj =>
    obtain ⟨hpos, hlt, hmax, -⟩ := hj
    simp only
    split
    · refine Or.inr ⟨agreement_le data i j maxLength, by omega, hmax, by omega, fun k hk => ?_⟩
      have hback : i - (i - j) = j := by omega
      rw [hback]
      exact same_of_lt_agreement hk
    · exact h
  · exact h

theorem longest_isProposal (data : Array UInt8) (index : Index) (i : Nat) :
    IsProposal data i (longest data index i) := by
  unfold longest
  split
  · next key _ =>
    exact List.foldlRecOn _ _ (Or.inl rfl : IsProposal data i (0, 0)) fun best h j _ =>
      better_isProposal h j
  · exact Or.inl rfl

/-- **What the search settles on is a copy.** -/
theorem isCopy_settled {index : Index} (h : 3 ≤ (settled data index i).1) :
    IsCopy data i (settled data index i).1 (settled data index i).2 := by
  unfold settled at h ⊢
  simp only at h ⊢
  split
  · next hlater =>
    rw [if_pos hlater] at h
    exact absurd h (by decide)
  · next hlater =>
    rw [if_neg hlater] at h
    rcases longest_isProposal data index i with h0 | hcopy
    · omega
    · exact hcopy

/-! ### what tokens mean -/

theorem extract_succ (h : i < data.size) :
    (data.extract 0 i).push data[i] = data.extract 0 (i + 1) :=
  (Array.extract_succ_right (Nat.succ_pos i) h).symm

theorem copyBack?_isCopy (hd : 0 < d) (hdi : d ≤ i)
    (hsame : ∀ k < n, ∃ b, data[i + k]? = some b ∧ data[i - d + k]? = some b) :
    copyBack? (data.extract 0 i) d n = some (data.extract 0 (i + n)) := by
  induction n generalizing i with
  | zero => rfl
  | succ n ih =>
    obtain ⟨b, hb, hback⟩ := hsame 0 (Nat.succ_pos n)
    obtain ⟨hi, rfl⟩ := Array.getElem?_eq_some_iff.mp hb
    have hi' : i < data.size := hi
    have hsize : (data.extract 0 i).size = i := by
      rw [Array.size_extract]
      omega
    have hfound : (data.extract 0 i)[(data.extract 0 i).size - d]? = some data[i] := by
      rw [hsize, Array.getElem?_extract, if_pos (by omega), Nat.zero_add]
      exact hback
    have hlater : ∀ k < n, ∃ b, data[i + 1 + k]? = some b ∧ data[i + 1 - d + k]? = some b := by
      intro k hk
      obtain ⟨b, h, h'⟩ := hsame (k + 1) (Nat.succ_lt_succ hk)
      refine ⟨b, ?_, ?_⟩
      · rw [← h]
        congr 1
        omega
      · rw [← h']
        congr 1
        omega
    rw [copyBack?, if_pos ⟨hd, by rw [hsize]; exact hdi⟩, hfound]
    show copyBack? ((data.extract 0 i).push data[i]) d n = _
    rw [extract_succ hi', ih (by omega) hlater, Nat.add_right_comm i 1 n, Nat.add_assoc]

def expandAll? (out : Array UInt8) (ts : List Token) : Option (Array UInt8) :=
  ts.foldlM Token.expand? out

theorem expandAll?_cons (out : Array UInt8) (t : Token) (ts : List Token) :
    expandAll? out (t :: ts) = (t.expand? out).bind (expandAll? · ts) := rfl

/-- from every place on, the tokens mean what the text has there -/
theorem expand_tokensFrom (data : Array UInt8) (index : Index) (i : Nat) (hi : i ≤ data.size) :
    expandAll? (data.extract 0 i) (tokensFrom data index i) = some data ∧
      ∀ t ∈ tokensFrom data index i, t.Coded := by
  fun_induction tokensFrom data index i with
  | case1 index i h best hbest hdec ih =>
    have hcopy : IsCopy data i best.1 best.2 := isCopy_settled hbest
    have hend : i + best.1 ≤ data.size := by
      obtain ⟨b, hb, -⟩ := hcopy.same (best.1 - 1) (by omega)
      obtain ⟨hlt, -⟩ := Array.getElem?_eq_some_iff.mp hb
      omega
    obtain ⟨hexp, hcoded⟩ := ih hend
    refine ⟨?_, List.forall_mem_cons.mpr ⟨?_, hcoded⟩⟩
    · have hthis : (Token.copy best.1 best.2).expand? (data.extract 0 i) =
          some (data.extract 0 (i + best.1)) :=
        copyBack?_isCopy hcopy.distance_pos hcopy.distance_le_place hcopy.same
      rw [expandAll?_cons, hthis]
      exact hexp
    · exact ⟨⟨hbest, hcopy.length_le⟩, hcopy.distance_pos, hcopy.distance_le⟩
  | case2 index i h best hbest ih =>
    obtain ⟨hexp, hcoded⟩ := ih h
    refine ⟨?_, List.forall_mem_cons.mpr ⟨trivial, hcoded⟩⟩
    have hthis : (Token.literal data[i]).expand? (data.extract 0 i) =
        some (data.extract 0 (i + 1)) :=
      congrArg some (extract_succ h)
    rw [expandAll?_cons, hthis]
    exact hexp
  | case3 index i h =>
    refine ⟨?_, fun t ht => absurd ht List.not_mem_nil⟩
    have hall : data.extract 0 i = data := by
      rw [Nat.le_antisymm hi (Nat.le_of_not_lt h)]
      exact Array.extract_size
    rw [hall]
    rfl

/-- **The tokens of a text mean the text**, and there are codes for all of them. -/
theorem expand_tokens (data : Bytes) :
    expandAll? #[] (tokens data) = some data.toArray ∧ ∀ t ∈ tokens data, t.Coded := by
  have h := expand_tokensFrom data.toArray ∅ 0 (Nat.zero_le _)
  rwa [Array.extract_zero] at h

end ServiceDiagram.Zlib
