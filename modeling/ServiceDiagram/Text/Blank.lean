/-!
# Blank characters

`isBlank` holds of the characters with the property `White_Space`; `trim` removes them at both ends
of a text and `isBlankText` says that nothing else is there.
-/

namespace ServiceDiagram.Text

/-- the 25 characters with the property `White_Space` -/
def isBlank (c : Char) : Bool :=
  let n := c.toNat
  (9 ≤ n && n ≤ 13) || n == 0x20 || n == 0x85 || n == 0xa0 || n == 0x1680 ||
    (0x2000 ≤ n && n ≤ 0x200a) || n == 0x2028 || n == 0x2029 || n == 0x202f || n == 0x205f ||
    n == 0x3000

/-- a list of characters without the blanks at its two ends -/
def trimChars (cs : List Char) : List Char :=
  ((cs.dropWhile isBlank).reverse.dropWhile isBlank).reverse

def trim (s : String) : String := String.ofList (trimChars s.toList)

def isBlankText (s : String) : Bool := (trim s).isEmpty

theorem toList_trim (s : String) : (trim s).toList = trimChars s.toList := String.toList_ofList

end ServiceDiagram.Text
