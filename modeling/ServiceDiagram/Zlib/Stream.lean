import ServiceDiagram.Text.Front
import ServiceDiagram.Zlib.Adler
import ServiceDiagram.Zlib.Fixed

/-!
# Compressed streams

A stream is a header of two bytes, one block in the fixed code, and the check sum of the data.
`deflate` writes one; `inflate?` reads the streams of this form, and says how long the stream is,
whatever stands behind it.
-/

namespace ServiceDiagram.Zlib

/-- the two bytes that say: deflated, window of 32768 bytes, highest effort -/
def header : Bytes := [0x78, 0xda]

/-- the first bits of a block that is the last one and uses the fixed code -/
def blockStart : List Bool := [true, true, false]

def deflate (data : Bytes) : Bytes :=
  header ++
    pack (blockStart ++ ((tokens data).flatMap Token.bits ++ symbolBits endMark)) ++
    adler data

/-- the bytes up to the end mark, and the bits behind it; every symbol takes a bit, so `fuel` need not
exceed the number of bits -/
def readTokens? : Nat → Array UInt8 → List Bool → Option (Array UInt8 × List Bool)
  | 0, _, _ => none
  | fuel + 1, out, bits => do
    let (symbol, bits) ← takeSymbol? bits
    if symbol = endMark then return (out, bits)
    let (token, bits) ← Token.ofSymbol? symbol bits
    let out ← token.expand? out
    readTokens? fuel out bits

/-- the data of a stream, and the number of bytes that the stream takes -/
def inflate? (bytes : Bytes) : Option (Bytes × Nat) := do
  let body ← Text.behind? header bytes
  let bits ← Text.behind? blockStart (unpack body)
  let (out, rest) ← readTokens? bits.length #[] bits
  let used := body.length - rest.length / 8
  let sum := (body.drop used).take 4
  if sum = adler out.toList then return (out.toList, 2 + used + 4)
  none

end ServiceDiagram.Zlib
