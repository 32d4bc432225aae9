import ServiceDiagram.Text.Hex

/-!
# Writing JSON

Compact texts: no blanks, and only those characters of a string escaped that cannot stand in it.
-/

namespace ServiceDiagram.Json

def escapeChar (c : Char) : List Char :=
  if c = '"' then ['\\', '"']
  else if c = '\\' then ['\\', '\\']
  else if c = '\x08' then ['\\', 'b']
  else if c = '\x0c' then ['\\', 'f']
  else if c = '\n' then ['\\', 'n']
  else if c = '\r' then ['\\', 'r']
  else if c = '\t' then ['\\', 't']
  else if c.toNat < 0x20 then ['\\', 'u'] ++ Text.hexDigits 4 c.toNat
  else [c]

def writeText (s : String) : List Char := '"' :: (s.toList.flatMap escapeChar ++ ['"'])

def writeMember (key : String) (value : List Char) : List Char := writeText key ++ ':' :: value

def writeObject (members : List (List Char)) : List Char :=
  '\x7b' :: ([','].intercalate members ++ ['\x7d'])

def writeList (items : List (List Char)) : List Char :=
  '[' :: ([','].intercalate items ++ [']'])

end ServiceDiagram.Json
