/-!
# Sixteen-bit units

Characters above U+FFFF are two units, a high and a low surrogate; `ofUnits` puts a pair together
again and reads a surrogate that stands alone as U+FFFD.
-/

namespace ServiceDiagram.Text

/-- the units of a character -/
def units (c : Char) : List UInt16 :=
  let n := c.toNat
  if n < 0x10000 then [n.toUInt16]
  else [(0xd800 + (n - 0x10000) / 0x400).toUInt16, (0xdc00 + (n - 0x10000) % 0x400).toUInt16]

def isHigh (u : UInt16) : Bool := 0xd800 ≤ u && u ≤ 0xdbff

def isLow (u : UInt16) : Bool := 0xdc00 ≤ u && u ≤ 0xdfff

/-- the character of a pair of surrogates -/
def pairChar (high low : UInt16) : Char :=
  Char.ofNat (0x10000 + (high.toNat - 0xd800) * 0x400 + (low.toNat - 0xdc00))

/-- the character of a unit that is not part of a pair -/
def loneChar (u : UInt16) : Char :=
  if isHigh u || isLow u then '\uFFFD' else Char.ofNat u.toNat

/-- the characters of a list of units -/
def ofUnits : List UInt16 → List Char
  | [] => []
  | [u] => [loneChar u]
  | u :: v :: rest =>
    if isHigh u && isLow v then pairChar u v :: ofUnits rest else loneChar u :: ofUnits (v :: rest)

/-- the length of a text in units -/
def unitLength (s : String) : Nat := (s.toList.flatMap units).length

end ServiceDiagram.Text
