import ServiceDiagram.Escape.Normal
import ServiceDiagram.Payload.Alphabet
import ServiceDiagram.Zlib.Stream

/-!
# Links to a rendering server

A link names the server, the variant of the drawing, and behind a mark the payload: the text without
escapes, compressed, in the six-bit alphabet.
-/

namespace ServiceDiagram

/-- what the server makes of a diagram: a picture, or a page to edit it -/
inductive Variant where
  | picture
  | markup
  deriving DecidableEq, Repr

namespace Variant

/-- the markup page is for changing the diagram -/
def ofChange (change : Bool) : Variant := if change then .markup else .picture

def path : Variant → String
  | .picture => "svg"
  | .markup => "umla"

def extension : Variant → String
  | .picture => "svg"
  | .markup => "txt"

end Variant

namespace Link

def defaultServer : String := "http://www.plantuml.com/plantuml"

/-- a server address without the slashes at its end -/
def base (server : String) : String :=
  String.ofList (server.toList.reverse.dropWhile (· == '/')).reverse

/-- the characters that carry a text, compressed by `deflate` -/
def payloadBy (deflate : Bytes → Bytes) (text : String) : String :=
  String.ofList (Payload.encode64 (deflate (Text.encode (Escape.normalize text))))

/-- the link to a drawing of a text, compressed by `deflate` -/
def urlBy (deflate : Bytes → Bytes) (server : String) (variant : Variant) (text : String) : String :=
  base server ++ "/" ++ variant.path ++ "/~1" ++ payloadBy deflate text

def payload (text : String) : String := payloadBy Zlib.deflate text

def url (server : String) (variant : Variant) (text : String) : String :=
  urlBy Zlib.deflate server variant text

end Link

end ServiceDiagram
