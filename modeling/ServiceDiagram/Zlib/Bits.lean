import ServiceDiagram.Text.Utf8

/-!
# Bits

Numbers are written with the lowest bit first, codes with the highest bit first, and bytes are
filled from their lowest bit.
-/

namespace ServiceDiagram.Zlib

/-- the lowest `k` bits of a number, lowest first -/
def lowFirst : Nat → Nat → List Bool
  | 0, _ => []
  | k + 1, n => (n % 2 == 1) :: lowFirst k (n / 2)

/-- the lowest `k` bits of a number, highest first -/
def highFirst (k n : Nat) : List Bool := (lowFirst k n).reverse

/-- the number whose bits these are, lowest first -/
def ofLowFirst : List Bool → Nat
  | [] => 0
  | b :: bs => b.toNat + 2 * ofLowFirst bs

/-- bytes filled with bits, zeros at the end -/
def pack (bits : List Bool) : Bytes :=
  if bits.isEmpty then []
  else (ofLowFirst (bits.take 8)).toUInt8 :: pack (bits.drop 8)
termination_by bits.length
decreasing_by
  cases bits with
  | nil => simp at *
  | cons b bs => simp only [List.length_drop, List.length_cons]; omega

/-- the bits of a sequence of bytes -/
def unpack (bs : Bytes) : List Bool := bs.flatMap fun b => lowFirst 8 b.toNat

/-- the number in the next `k` bits, and the bits behind it -/
def takeNumber? (k : Nat) (bits : List Bool) : Option (Nat × List Bool) :=
  if k ≤ bits.length then some (ofLowFirst (bits.take k), bits.drop k) else none

end ServiceDiagram.Zlib
