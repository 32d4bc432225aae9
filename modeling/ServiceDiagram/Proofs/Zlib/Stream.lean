import ServiceDiagram.Proofs.Zlib.Codes
import ServiceDiagram.Zlib.Stream

/-!
# Streams are read back

`inflate?` gives the data of a stream and its length, whatever bytes stand behind it
(`inflate?_append`).  `Inflates inflate? deflate` says as much as a reader of streams needs: that
zero bytes behind a stream do no harm.
-/

namespace ServiceDiagram.Zlib

/-- **Streams can be read back**: what `deflate` makes of some data gives the data again and the length
of the stream, also with zero bytes behind it. -/
def Inflates (inflate? : Bytes → Option (Bytes × Nat)) (deflate : Bytes → Bytes) : Prop :=
  ∀ data zeros, inflate? (deflate data ++ List.replicate zeros 0) = some (data, (deflate data).length)

/-! ### tokens one after the other -/

theorem readTokens?_endMark (fuel : Nat) (out : Array UInt8) (rest : List Bool) :
    readTokens? (fuel + 1) out (symbolBits endMark ++ rest) = some (out, rest) := by
  have hmark : takeSymbol? (symbolBits endMark ++ rest) = some (endMark, rest) :=
    takeSymbol?_append (by decide) rest
  rw [readTokens?]
  simp only [hmark, Option.bind_eq_bind, Option.bind_some]
  rfl

theorem readTokens?_append {ts : List Token} (hts : ∀ t ∈ ts, t.Coded) {out out' : Array UInt8}
    (h : expandAll? out ts = some out') (rest : List Bool) {fuel : Nat} (hf : ts.length < fuel) :
    readTokens? fuel out (ts.flatMap Token.bits ++ (symbolBits endMark ++ rest)) =
      some (out', rest) := by
  induction ts generalizing out fuel with
  | nil =>
    cases h
    obtain ⟨fuel, rfl⟩ := Nat.exists_eq_add_of_lt hf
    exact readTokens?_endMark _ out' rest
  | cons t ts ih =>
    obtain ⟨fuel, rfl⟩ : ∃ k, fuel = k + 1 := ⟨fuel - 1, by omega⟩
    rw [expandAll?_cons] at h
    obtain ⟨mid, hmid, hrest⟩ := Option.bind_eq_some_iff.mp h
    obtain ⟨symbol, bits, hsymbol, hne, htoken⟩ := Token.read_bits (hts t List.mem_cons_self)
      (ts.flatMap Token.bits ++ (symbolBits endMark ++ rest))
    have hts' : ∀ u ∈ ts, u.Coded := fun u hu => hts u (List.mem_cons_of_mem t hu)
    have hf' : ts.length < fuel := by
      rw [List.length_cons] at hf
      omega
    rw [List.flatMap_cons, List.append_assoc, readTokens?]
    simp only [hsymbol, if_neg hne, htoken, hmid, Option.bind_eq_bind, Option.bind_some]
    exact ih hts' hrest hf'

theorem length_le_bits (ts : List Token) : ts.length ≤ (ts.flatMap Token.bits).length := by
  induction ts with
  | nil => exact Nat.le_refl _
  | cons t ts ih =>
    have ht := List.length_pos_iff.mpr t.bits_ne_nil
    rw [List.flatMap_cons, List.length_append, List.length_cons]
    omega

/-! ### whole streams -/

theorem length_adler (data : Bytes) : (adler data).length = 4 := rfl

/-- **A stream is read back**, whatever bytes stand behind it. -/
theorem inflate?_append (data tail : Bytes) :
    inflate? (deflate data ++ tail) = some (data, (deflate data).length) := by
  obtain ⟨hexpand, hcoded⟩ := expand_tokens data
  let content := (tokens data).flatMap Token.bits ++ symbolBits endMark
  obtain ⟨k, hk, hunpack⟩ := unpack_pack (blockStart ++ content)
  have hheader : Text.behind? header (deflate data ++ tail) =
      some (pack (blockStart ++ content) ++ (adler data ++ tail)) := by
    rw [deflate, List.append_assoc, List.append_assoc]
    exact Text.behind?_append ..
  let rest := List.replicate k false ++ unpack (adler data ++ tail)
  have hblock : Text.behind? blockStart (unpack (pack (blockStart ++ content) ++ (adler data ++ tail))) =
      some (content ++ rest) := by
    rw [unpack_append, hunpack, List.append_assoc, List.append_assoc]
    exact Text.behind?_append ..
  have htokens : readTokens? (content ++ rest).length #[] (content ++ rest) =
      some (data.toArray, rest) := by
    have hfuel : (tokens data).length < (content ++ rest).length := by
      have hle := length_le_bits (tokens data)
      have hmark := List.length_pos_iff.mpr (symbolBits_ne_nil endMark)
      simp only [content, List.length_append]
      omega
    have hassoc : content ++ rest =
        (tokens data).flatMap Token.bits ++ (symbolBits endMark ++ rest) := List.append_assoc ..
    rw [hassoc] at hfuel ⊢
    exact readTokens?_append hcoded hexpand rest hfuel
  -- less than a byte of the rest belongs to the block
  have hused : (pack (blockStart ++ content) ++ (adler data ++ tail)).length - rest.length / 8 =
      (pack (blockStart ++ content)).length := by
    have hrest : rest.length / 8 = (adler data ++ tail).length := by
      simp only [rest, List.length_append, List.length_replicate, length_unpack]
      omega
    rw [hrest, List.length_append, Nat.add_sub_cancel]
  have hsum : ((pack (blockStart ++ content) ++ (adler data ++ tail)).drop
      (pack (blockStart ++ content)).length).take 4 = adler data := by
    rw [List.drop_left, List.take_left' (length_adler data)]
  have hlength : (deflate data).length = 2 + (pack (blockStart ++ content)).length + 4 := by
    rw [deflate, List.length_append, List.length_append]
    rfl
  rw [inflate?]
  simp only [hheader, hblock, htokens, hused, hsum, Option.bind_eq_bind, Option.bind_some,
    hlength]
  rfl

theorem inflates_deflate : Inflates inflate? deflate := fun data zeros =>
  inflate?_append data (List.replicate zeros 0)

end ServiceDiagram.Zlib
