import ServiceDiagram.Proofs.Zlib.Bits
import ServiceDiagram.Proofs.Zlib.Copies

/-!
# The fixed code is read back

A symbol is read back whatever stands behind it (`takeSymbol?_append`), a length or a distance lies in
the row that its table gives (`rowOf_isGapless`), and so each token that has a code is read back
(`Token.read_bits`).
-/

namespace ServiceDiagram.Zlib

/-! ### symbols -/

/-- the first bits of a code of seven, eight or nine bits tell its length -/
theorem takeSymbol?_append {s : Nat} (h : s < 288) (rest : List Bool) :
    takeSymbol? (symbolBits s ++ rest) = some (s, rest) := by
  unfold symbolBits takeSymbol?
  split
  · have h7 := takeCode?_highFirst (j := 1) (k := 7) (n := 0x30 + s) (by omega) rest
    have h8 := takeCode?_whole (k := 8) (n := 0x30 + s) (by omega) rest
    simp only [Nat.reduceAdd] at h7
    simp only [h7, h8, Option.bind_eq_bind, Option.bind_some]
    rw [if_neg (by omega), if_pos (by omega), Nat.add_sub_cancel_left]
    rfl
  · split
    · have h7 := takeCode?_highFirst (j := 2) (k := 7) (n := 0x190 + (s - 144)) (by omega) rest
      have h8 := takeCode?_highFirst (j := 1) (k := 8) (n := 0x190 + (s - 144)) (by omega) rest
      have h9 := takeCode?_whole (k := 9) (n := 0x190 + (s - 144)) (by omega) rest
      simp only [Nat.reduceAdd] at h7 h8
      simp only [h7, h8, h9, Option.bind_eq_bind, Option.bind_some]
      rw [if_neg (by omega), if_neg (by omega), if_neg (by omega), Nat.add_sub_cancel_left,
        Nat.add_sub_cancel' (by omega)]
      rfl
    · split
      · have h7 := takeCode?_whole (k := 7) (n := s - 256) (by omega) rest
        simp only [h7, Option.bind_eq_bind, Option.bind_some]
        rw [if_pos (by omega), Nat.add_sub_cancel' (by omega)]
        rfl
      · have h7 := takeCode?_highFirst (j := 1) (k := 7) (n := 0xc0 + (s - 280)) (by omega) rest
        have h8 := takeCode?_whole (k := 8) (n := 0xc0 + (s - 280)) (by omega) rest
        simp only [Nat.reduceAdd] at h7
        simp only [h7, h8, Option.bind_eq_bind, Option.bind_some]
        rw [if_neg (by omega), if_neg (by omega), if_pos (by omega), Nat.add_sub_cancel_left,
          Nat.add_sub_cancel' (by omega)]
        rfl

theorem symbolBits_ne_nil (s : Nat) : symbolBits s ≠ [] := by
  unfold symbolBits
  split
  · exact List.ne_nil_of_length_eq_add_one (length_highFirst 8 _)
  · split
    · exact List.ne_nil_of_length_eq_add_one (length_highFirst 9 _)
    · split
      · exact List.ne_nil_of_length_eq_add_one (length_highFirst 7 _)
      · exact List.ne_nil_of_length_eq_add_one (length_highFirst 8 _)

/-! ### rows -/

/-- the values of each row reach up to the next row, and those of the last row up to a limit -/
def isGapless (limit : Nat) : List Row → Bool
  | [] => true
  | [r] => limit < r.least + 2 ^ r.extra
  | r :: next :: rest => next.least ≤ r.least + 2 ^ r.extra && isGapless limit (next :: rest)

theorem isGapless_lengthRows : isGapless maxLength lengthRows = true := by decide

theorem isGapless_distanceRows : isGapless maxDistance distanceRows = true := by decide

variable {rows : List Row} {limit n : Nat}

/-- the row of a value is the last one that starts at or below it -/
theorem rowOf_eq (h : ∃ r ∈ rows, r.least ≤ n) :
    ∃ front r back, rows = front ++ r :: back ∧ rowOf rows n = (front.length, r) ∧ r.least ≤ n ∧
      ∀ next ∈ back, n < next.least := by
  have hlast : (rows.zipIdx.filter fun r => r.1.least ≤ n).getLast? =
      rows.zipIdx.reverse.find? fun r => r.1.least ≤ n := List.getLast?_filter
  obtain ⟨⟨r, i⟩, hfound⟩ :
      ∃ p, (rows.zipIdx.reverse.find? fun r => decide (r.1.least ≤ n)) = some p := by
    obtain ⟨r, hr, hn⟩ := h
    obtain ⟨i, hi⟩ := List.mem_iff_getElem?.mp hr
    refine Option.isSome_iff_exists.mp (List.find?_isSome.mpr ⟨(r, i), ?_, decide_eq_true hn⟩)
    exact List.mem_reverse.mpr (List.mk_mem_zipIdx_iff_getElem?.mpr hi)
  obtain ⟨hn, later, earlier, hsplit, hlater⟩ := List.find?_eq_some_iff_append.mp hfound
  have hzip : rows.zipIdx = earlier.reverse ++ (r, i) :: later.reverse := by
    rw [← List.reverse_reverse rows.zipIdx, hsplit, List.reverse_append, List.reverse_cons,
      List.append_assoc]
    rfl
  have hrows : rows = earlier.reverse.map (·.1) ++ r :: later.reverse.map (·.1) := by
    rw [← List.zipIdx_map_fst 0 rows, hzip, List.map_append, List.map_cons]
  have hi : i = (earlier.reverse.map (·.1)).length := by
    have hat : rows.zipIdx[earlier.reverse.length]? = some (r, i) := by
      rw [hzip, List.getElem?_append_right (Nat.le_refl _), Nat.sub_self]
      rfl
    rw [List.getElem?_zipIdx] at hat
    obtain ⟨_, _, he⟩ := Option.map_eq_some_iff.mp hat
    have hi : 0 + earlier.reverse.length = i := congrArg Prod.snd he
    rw [List.length_map, ← hi, Nat.zero_add]
  refine ⟨_, r, _, hrows, ?_, of_decide_eq_true hn, ?_⟩
  · rw [rowOf, hlast, hfound, hi]
    rfl
  · intro next hnext
    obtain ⟨p, hp, rfl⟩ := List.mem_map.mp hnext
    have hnot := hlater p (List.mem_reverse.mp hp)
    simpa using hnot

theorem isGapless_append {front : List Row} (h : isGapless limit (front ++ rows) = true) :
    isGapless limit rows = true := by
  induction front with
  | nil => exact h
  | cons r front ih =>
    apply ih
    rw [List.cons_append] at h
    cases hrest : front ++ rows with
    | nil => rfl
    | cons next rest =>
      rw [hrest, isGapless, Bool.and_eq_true] at h
      exact h.2

/-- **A value lies in its row** if the table has no gaps. -/
theorem rowOf_isGapless (h : isGapless limit rows = true) (hfirst : ∃ r ∈ rows, r.least ≤ n)
    (hn : n ≤ limit) :
    ∃ i r, rowOf rows n = (i, r) ∧ rows[i]? = some r ∧ i < rows.length ∧ r.least ≤ n ∧
      n < r.least + 2 ^ r.extra := by
  obtain ⟨front, r, back, rfl, hrow, hle, hlater⟩ := rowOf_eq hfirst
  refine ⟨front.length, r, hrow, ?_, ?_, hle, ?_⟩
  · rw [List.getElem?_append_right (Nat.le_refl _), Nat.sub_self]
    rfl
  · rw [List.length_append, List.length_cons]
    omega
  · have hback := isGapless_append h
    cases back with
    | nil =>
      have hlast : limit < r.least + 2 ^ r.extra := of_decide_eq_true hback
      omega
    | cons next back =>
      have hnext := hlater next List.mem_cons_self
      rw [isGapless, Bool.and_eq_true, decide_eq_true_eq] at hback
      omega

theorem Row.take?_append {r : Row} (hle : r.least ≤ n) (hlt : n < r.least + 2 ^ r.extra)
    (rest : List Bool) : r.take? (lowFirst r.extra (n - r.least) ++ rest) = some (n, rest) := by
  rw [Row.take?, takeNumber?_lowFirst (by omega)]
  show some (r.least + (n - r.least), rest) = _
  rw [Nat.add_sub_cancel' hle]

/-! ### tokens -/

/-- **A token is read back**: its first symbol, which is not the end mark, and then what the symbol
starts. -/
theorem Token.read_bits {t : Token} (h : t.Coded) (rest : List Bool) :
    ∃ symbol bits, takeSymbol? (t.bits ++ rest) = some (symbol, bits) ∧ symbol ≠ endMark ∧
      Token.ofSymbol? symbol bits = some (t, rest) := by
  cases t with
  | literal b =>
    have hb : b.toNat < 256 := b.toNat_lt
    refine ⟨b.toNat, rest, takeSymbol?_append (by omega) rest, by unfold endMark; omega, ?_⟩
    rw [Token.ofSymbol?, if_pos hb]
    show some (Token.literal (UInt8.ofNat b.toNat), rest) = _
    rw [UInt8.ofNat_toNat]
  | copy length distance =>
    obtain ⟨⟨h3, hlength⟩, h1, hdistance⟩ := h
    have hfirst : ∃ r ∈ lengthRows, r.least ≤ length := ⟨⟨3, 0⟩, List.mem_cons_self, h3⟩
    have hfirst' : ∃ r ∈ distanceRows, r.least ≤ distance := ⟨⟨1, 0⟩, List.mem_cons_self, h1⟩
    obtain ⟨i, l, hi, hli, hlen, hl, hl'⟩ := rowOf_isGapless isGapless_lengthRows hfirst hlength
    obtain ⟨j, d, hj, hdj, hlen', hd, hd'⟩ :=
      rowOf_isGapless isGapless_distanceRows hfirst' hdistance
    have hi29 : i < 29 := hlen
    have hj30 : j < 30 := hlen'
    have hbits : (Token.copy length distance).bits ++ rest =
        symbolBits (257 + i) ++ (lowFirst l.extra (length - l.least) ++ (highFirst 5 j ++
          (lowFirst d.extra (distance - d.least) ++ rest))) := by
      simp only [Token.bits, hi, hj, List.append_assoc]
    have hcode := takeCode?_whole (k := 5) (n := j) (by omega)
      (lowFirst d.extra (distance - d.least) ++ rest)
    refine ⟨257 + i, _, hbits ▸ takeSymbol?_append (by omega) _, by unfold endMark; omega, ?_⟩
    rw [Token.ofSymbol?, if_neg (by omega)]
    simp only [Nat.add_sub_cancel_left, hli, hdj, hcode, Row.take?_append hl hl',
      Row.take?_append hd hd', Option.bind_eq_bind, Option.bind_some]
    rfl

theorem Token.bits_ne_nil (t : Token) : t.bits ≠ [] := by
  cases t with
  | literal b => exact symbolBits_ne_nil b.toNat
  | copy length distance =>
    simp only [Token.bits, List.append_assoc]
    exact List.append_ne_nil_of_left_ne_nil (symbolBits_ne_nil _) _

end ServiceDiagram.Zlib
