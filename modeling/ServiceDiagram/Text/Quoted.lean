import ServiceDiagram.Text.Hex
import ServiceDiagram.Text.Hidden
import ServiceDiagram.Text.Utf8

/-!
# Quoted text

A text between quotes, as it is shown in messages: quotes, backslashes, and characters that do not
show by themselves are escapes.
-/

namespace ServiceDiagram.Text

/-- the digits of a number in base sixteen, without leading zeros -/
def hexText (n : Nat) : List Char := Nat.toDigits 16 n

def quotedChar (c : Char) : List Char :=
  if c = '\x00' then ['\\', '0']
  else if c = '\t' then ['\\', 't']
  else if c = '\r' then ['\\', 'r']
  else if c = '\n' then ['\\', 'n']
  else if c = '"' ∨ c = '\\' then ['\\', c]
  else if c.toNat < 0x20 ∨ c.toNat = 0x7f ∨ (0x80 ≤ c.toNat ∧ isHidden c) then
    ['\\', 'u', '\x7b'] ++ hexText c.toNat ++ ['\x7d']
  else [c]

def quoted (s : String) : String := String.ofList ('"' :: s.toList.flatMap quotedChar ++ ['"'])

end ServiceDiagram.Text
