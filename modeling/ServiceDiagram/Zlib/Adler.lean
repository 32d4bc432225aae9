import ServiceDiagram.Text.Utf8

/-!
# Check sum

Two sums modulo 65521: of the bytes, and of the first sum as it grows.
-/

namespace ServiceDiagram.Zlib

def adlerStep (sums : Nat × Nat) (b : UInt8) : Nat × Nat :=
  let low := (sums.1 + b.toNat) % 65521
  (low, (sums.2 + low) % 65521)

/-- the four bytes of the check sum, highest first -/
def adler (bs : Bytes) : Bytes :=
  let (low, high) := bs.foldl adlerStep (1, 0)
  [(high / 256).toUInt8, (high % 256).toUInt8, (low / 256).toUInt8, (low % 256).toUInt8]

end ServiceDiagram.Zlib
