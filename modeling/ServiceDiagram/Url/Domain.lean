import ServiceDiagram.Text.Hidden
import ServiceDiagram.Text.Utf8
import ServiceDiagram.Url.Address
import ServiceDiagram.Url.Disallowed
import ServiceDiagram.Url.Fault
import ServiceDiagram.Url.Folded
import ServiceDiagram.Url.Punycode

/-!
# Hosts

A host is a number in brackets, four bytes, or a domain name.  A name may be written with percent
signs; what it then spells is folded and must consist of labels that name something.
-/

namespace ServiceDiagram.Url

/-! ### labels -/

/-- the joiners, which may only follow a sign that takes a vowel -/
def isJoiner (c : Char) : Bool := c.toNat == 0x200c || c.toNat == 0x200d

def joinsWell : List Char → Bool
  | [] => true
  | [c] => !isJoiner c
  | c :: d :: rest => (!isJoiner d || viramas.contains c.toNat) && joinsWell (d :: rest)

/-- a folded label without `xn--` -/
def isPlainLabel (cs : List Char) : Bool :=
  !cs.any isDisallowed && !cs.head?.any Text.isHidden && joinsWell cs

def isLabel : List Char → Bool
  | 'x' :: 'n' :: '-' :: '-' :: rest =>
    match Punycode.decode? rest with
    | some cs => fold cs == cs && isPlainLabel cs
    | none => false
  | cs => isPlainLabel cs

/-! ### hosts -/

def percentDecode : Bytes → Bytes
  | [] => []
  | 0x25 :: a :: b :: rest =>
    match Text.hexNumber? [Char.ofNat a.toNat, Char.ofNat b.toNat] with
    | some n => n.toUInt8 :: percentDecode rest
    | none => 0x25 :: percentDecode (a :: b :: rest)
  | b :: rest => b :: percentDecode rest

def nameOf? (host : List Char) : Option (List Char) :=
  (Text.decode? (percentDecode (Text.encode (String.ofList host)))).map fun s => fold s.toList

/-- a name that is not in brackets -/
def checkName (host : List Char) : Except Fault Unit :=
  match nameOf? host with
  | none => .error .domain
  | some name =>
    if !(labels name).all isLabel then .error .domain
    else if name.isEmpty then .error .emptyHost
    else if endsInNumber name && !isAddress4 name then .error .address4
    else .ok ()

/-- a number in brackets; the opening one is read -/
def checkBrackets (cs : List Char) : Except Fault Unit :=
  if cs.getLast? = some ']' ∧ isAddress6 cs.dropLast then .ok () else .error .address6

def checkHost : List Char → Except Fault Unit
  | '[' :: cs => checkBrackets cs
  | host => checkName host

/-- a character that no host of any scheme has -/
def isHostBreaker (c : Char) : Bool :=
  c == '\x00' || c == '\t' || c == '\n' || c == '\r' || " #/:<>?@[\\]^|".toList.contains c

/-- a host whose scheme gives it no further meaning -/
def checkOpaqueHost : List Char → Except Fault Unit
  | '[' :: cs => checkBrackets cs
  | host => if host.any isHostBreaker then .error .character else .ok ()

end ServiceDiagram.Url
