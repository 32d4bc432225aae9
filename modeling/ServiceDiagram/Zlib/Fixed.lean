import ServiceDiagram.Zlib.Bits
import ServiceDiagram.Zlib.Token

/-!
# The fixed code

Literals, the end mark and the lengths of copies share one code of seven to nine bits; distances have
five bits.  A length or a distance is the number of its row in a table and what it lies above the
least value of that row, in as many bits as the row says.
-/

namespace ServiceDiagram.Zlib

/-- the least value of a row, and the number of bits that say how far a value lies above it -/
structure Row where
  least : Nat
  extra : Nat

/-- lengths of copies; the symbol of the first row is 257 -/
def lengthRows : List Row :=
  [⟨3, 0⟩, ⟨4, 0⟩, ⟨5, 0⟩, ⟨6, 0⟩, ⟨7, 0⟩, ⟨8, 0⟩, ⟨9, 0⟩, ⟨10, 0⟩, ⟨11, 1⟩, ⟨13, 1⟩, ⟨15, 1⟩,
    ⟨17, 1⟩, ⟨19, 2⟩, ⟨23, 2⟩, ⟨27, 2⟩, ⟨31, 2⟩, ⟨35, 3⟩, ⟨43, 3⟩, ⟨51, 3⟩, ⟨59, 3⟩, ⟨67, 4⟩,
    ⟨83, 4⟩, ⟨99, 4⟩, ⟨115, 4⟩, ⟨131, 5⟩, ⟨163, 5⟩, ⟨195, 5⟩, ⟨227, 5⟩, ⟨258, 0⟩]

/-- distances of copies; the symbol of the first row is zero -/
def distanceRows : List Row :=
  [⟨1, 0⟩, ⟨2, 0⟩, ⟨3, 0⟩, ⟨4, 0⟩, ⟨5, 1⟩, ⟨7, 1⟩, ⟨9, 2⟩, ⟨13, 2⟩, ⟨17, 3⟩, ⟨25, 3⟩, ⟨33, 4⟩,
    ⟨49, 4⟩, ⟨65, 5⟩, ⟨97, 5⟩, ⟨129, 6⟩, ⟨193, 6⟩, ⟨257, 7⟩, ⟨385, 7⟩, ⟨513, 8⟩, ⟨769, 8⟩,
    ⟨1025, 9⟩, ⟨1537, 9⟩, ⟨2049, 10⟩, ⟨3073, 10⟩, ⟨4097, 11⟩, ⟨6145, 11⟩, ⟨8193, 12⟩,
    ⟨12289, 12⟩, ⟨16385, 13⟩, ⟨24577, 13⟩]

/-- the number of the last row that starts at or below a value, and the row -/
def rowOf (rows : List Row) (n : Nat) : Nat × Row :=
  ((rows.zipIdx.filter fun r => r.1.least ≤ n).getLast?.map fun r => (r.2, r.1)).getD (0, ⟨0, 0⟩)

/-! ### writing -/

/-- the code of a literal (below 256), of the end mark (256) or of a row of lengths -/
def symbolBits (s : Nat) : List Bool :=
  if s < 144 then highFirst 8 (0x30 + s)
  else if s < 256 then highFirst 9 (0x190 + (s - 144))
  else if s < 280 then highFirst 7 (s - 256)
  else highFirst 8 (0xc0 + (s - 280))

def endMark : Nat := 256

def Token.bits : Token → List Bool
  | .literal b => symbolBits b.toNat
  | .copy length distance =>
    let (i, l) := rowOf lengthRows length
    let (j, d) := rowOf distanceRows distance
    symbolBits (257 + i) ++ lowFirst l.extra (length - l.least) ++ highFirst 5 j ++
      lowFirst d.extra (distance - d.least)

/-! ### reading -/

/-- the number in the next `k` bits, highest first, and the bits behind it -/
def takeCode? (k : Nat) (bits : List Bool) : Option (Nat × List Bool) :=
  if k ≤ bits.length then some (ofLowFirst (bits.take k).reverse, bits.drop k) else none

/-- the symbol that stands next, and the bits behind it -/
def takeSymbol? (bits : List Bool) : Option (Nat × List Bool) := do
  let (short, rest) ← takeCode? 7 bits
  if short < 24 then return (256 + short, rest)
  let (middle, rest) ← takeCode? 8 bits
  if middle < 0xc0 then return (middle - 0x30, rest)
  if middle < 0xc8 then return (280 + (middle - 0xc0), rest)
  let (long, rest) ← takeCode? 9 bits
  return (144 + (long - 0x190), rest)

/-- the value that a row and the next bits give, and the bits behind it -/
def Row.take? (row : Row) (bits : List Bool) : Option (Nat × List Bool) :=
  (takeNumber? row.extra bits).map fun (n, rest) => (row.least + n, rest)

/-- the token that a symbol starts, and the bits behind it -/
def Token.ofSymbol? (symbol : Nat) (bits : List Bool) : Option (Token × List Bool) := do
  if symbol < 256 then return (.literal symbol.toUInt8, bits)
  let row ← lengthRows[symbol - 257]?
  let (length, bits) ← row.take? bits
  let (j, bits) ← takeCode? 5 bits
  let row ← distanceRows[j]?
  let (distance, bits) ← row.take? bits
  return (.copy length distance, bits)

end ServiceDiagram.Zlib
