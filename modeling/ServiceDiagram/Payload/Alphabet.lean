import ServiceDiagram.Text.Utf8

/-!
# Six-bit characters

Three bytes are four characters of the alphabet `0-9A-Za-z-_`.  A short last group is filled with
zero bytes and is four characters too, so reading gives the bytes and at most two zeros.
-/

namespace ServiceDiagram.Payload

/-- the character of the low six bits of a byte -/
def digit (v : UInt8) : Char :=
  let n := v.toNat % 64
  if n < 10 then Char.ofNat (48 + n)
  else if n < 36 then Char.ofNat (65 + (n - 10))
  else if n < 62 then Char.ofNat (97 + (n - 36))
  else if n = 62 then '-'
  else '_'

def value? (c : Char) : Option UInt8 :=
  let n := c.toNat
  if '0' ≤ c ∧ c ≤ '9' then some (n - 48).toUInt8
  else if 'A' ≤ c ∧ c ≤ 'Z' then some (n - 65 + 10).toUInt8
  else if 'a' ≤ c ∧ c ≤ 'z' then some (n - 97 + 36).toUInt8
  else if c = '-' then some 62
  else if c = '_' then some 63
  else none

/-- the four characters of three bytes -/
def group (a b c : UInt8) : List Char :=
  [digit (a >>> 2), digit (((a &&& 0x3) <<< 4) ||| (b >>> 4)),
    digit (((b &&& 0xf) <<< 2) ||| (c >>> 6)), digit (c &&& 0x3f)]

def encode64 : Bytes → List Char
  | [] => []
  | [a] => group a 0 0
  | [a, b] => group a b 0
  | a :: b :: c :: rest => group a b c ++ encode64 rest

/-- the bytes of a sequence of characters, four by four -/
def decode64? : List Char → Option Bytes
  | [] => some []
  | w :: x :: y :: z :: rest => do
    let w ← value? w
    let x ← value? x
    let y ← value? y
    let z ← value? z
    let bytes ← decode64? rest
    return ((w <<< 2) ||| (x >>> 4)) :: ((x <<< 4) ||| (y >>> 2)) :: ((y <<< 6) ||| z) :: bytes
  | _ => none

end ServiceDiagram.Payload
