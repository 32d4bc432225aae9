import ServiceDiagram.Text.Quoted

/-!
# What can be wrong with a JSON text

`Fault` has one case for each way in which a text is not the document that is expected, and `Found`
says what stands where something else is expected.  `Fault.message` gives the wording.
-/

namespace ServiceDiagram.Json

/-- a value that is not of the expected type -/
inductive Found where
  | null
  | boolean (b : Bool)
  | integer (n : Int)
  | float (digits : String)
  | string (s : String)
  | sequence
  | map

inductive Fault where
  /-- the text ends inside a value, an object, a list or a string -/
  | endInValue
  | endInObject
  | endInList
  | endInString
  /-- something else stands where a value, a word, a colon, a comma or an end is due -/
  | expectedValue
  | expectedWord
  | expectedColon
  | expectedCommaOrBrace
  | expectedCommaOrBracket
  | keyNotString
  | trailingComma
  | trailingCharacters
  | invalidNumber
  | numberOutOfRange
  | invalidEscape
  | loneSurrogate
  | endOfPair
  | invalidText
  | controlCharacter
  /-- the value is well formed but not the one that the document has there -/
  | invalidType (found : Found) (expected : String)
  | invalidLength (length : Nat) (expected : String)
  | missingField (key : String)
  | duplicateField (key : String)

def backQuoted (s : String) : String := "\x60" ++ s ++ "\x60"

def Found.describe : Found → String
  | .null => "null"
  | .boolean b => "boolean " ++ backQuoted (if b then "true" else "false")
  | .integer n => "integer " ++ backQuoted (toString n)
  | .float digits => "floating point " ++ backQuoted digits
  | .string s => "string " ++ Text.quoted s
  | .sequence => "sequence"
  | .map => "map"

def Fault.message : Fault → String
  | .endInValue => "EOF while parsing a value"
  | .endInObject => "EOF while parsing an object"
  | .endInList => "EOF while parsing a list"
  | .endInString => "EOF while parsing a string"
  | .expectedValue => "expected value"
  | .expectedWord => "expected ident"
  | .expectedColon => "expected " ++ backQuoted ":"
  | .expectedCommaOrBrace => "expected " ++ backQuoted "," ++ " or " ++ backQuoted "\x7d"
  | .expectedCommaOrBracket => "expected " ++ backQuoted "," ++ " or " ++ backQuoted "]"
  | .keyNotString => "key must be a string"
  | .trailingComma => "trailing comma"
  | .trailingCharacters => "trailing characters"
  | .invalidNumber => "invalid number"
  | .numberOutOfRange => "number out of range"
  | .invalidEscape => "invalid escape"
  | .loneSurrogate => "lone leading surrogate in hex escape"
  | .endOfPair => "unexpected end of hex escape"
  | .invalidText => "invalid unicode code point"
  | .controlCharacter => "control character (\\u0000-\\u001F) found while parsing a string"
  | .invalidType found expected => "invalid type: " ++ found.describe ++ ", expected " ++ expected
  | .invalidLength length expected =>
    "invalid length " ++ toString length ++ ", expected " ++ expected
  | .missingField key => "missing field " ++ backQuoted key
  | .duplicateField key => "duplicate field " ++ backQuoted key

end ServiceDiagram.Json
