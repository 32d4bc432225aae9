import ServiceDiagram.Text.Hex
import ServiceDiagram.Text.Parts

/-!
# Numeric hosts

* `isAddress4`   one to four numbers with dots between them, decimal, octal (`0…`) or hexadecimal
  (`0x…`); the last one fills all bytes that are left;
* `isAddress6`   eight groups of hexadecimal digits with colons between them, of which `::` stands for
  one or more and the last two may be written as four decimal bytes.
-/

namespace ServiceDiagram.Url

open Text (ofDigits)

def labels (cs : List Char) : List (List Char) := Text.parts '.' cs

def isDigitOf (base : Nat) (c : Char) : Bool := (Text.hexValue? c).any (· < base)

/-- the number in a base, of which no digits are zero -/
def numberIn? (base : Nat) (ds : List Char) : Option Nat :=
  if ds.all (isDigitOf base) then some (ofDigits base ds) else none

/-- a number with the mark of its base in front -/
def number? : List Char → Option Nat
  | [] => none
  | '0' :: 'x' :: ds => numberIn? 16 ds
  | '0' :: 'X' :: ds => numberIn? 16 ds
  | '0' :: d :: ds => numberIn? 8 (d :: ds)
  | ds => numberIn? 10 ds

/-! ### four bytes -/

/-- the parts of a host; one dot behind the last does not count -/
def hostLabels (host : List Char) : List (List Char) :=
  let parts := labels host
  if parts.getLast? = some [] then parts.dropLast else parts

/-- a host whose last part is a number must be an address -/
def endsInNumber (host : List Char) : Bool :=
  match (hostLabels host).getLast? with
  | none => false
  | some last => (!last.isEmpty && last.all Char.isDigit) || (number? last).isSome

/-- numbers that fit four bytes; `room` is the number of values that the last one has -/
def fit4 (room : Nat) : List Nat → Bool
  | [] => false
  | [n] => n < room
  | n :: ns => n < 256 && fit4 (room / 256) ns

def isAddress4 (host : List Char) : Bool :=
  let parts := hostLabels host
  parts.length ≤ 4 && (parts.mapM number?).any (fit4 UInt32.size)

/-! ### eight groups -/

/-- a byte in decimal digits, without zeros in front -/
def isByte (ds : List Char) : Bool :=
  !ds.isEmpty && ds.all Char.isDigit && (ds.length == 1 || ds.head? != some '0') &&
    ofDigits 10 ds < 256

/-- four bytes with dots between them -/
def isQuad (cs : List Char) : Bool := (labels cs).length == 4 && (labels cs).all isByte

/-- groups for which there is room; `skipped` says whether a `::` was among those before -/
def groups : Nat → Bool → List Char → Bool
  | 0, _, cs => cs.isEmpty
  | room + 1, skipped, cs =>
    match cs with
    | [] => skipped
    | ':' :: rest => !skipped && groups room true rest
    | _ =>
      let digits := (cs.take 4).takeWhile (isDigitOf 16)
      match cs.drop digits.length with
      | [] => groups room skipped []
      | '.' :: _ =>
        !digits.isEmpty && (if skipped then 1 ≤ room else room == 1) && isQuad cs
      | ':' :: rest => !rest.isEmpty && groups room skipped rest
      | _ => false

def isAddress6 : List Char → Bool
  | ':' :: ':' :: rest => groups 7 true rest
  | ':' :: _ => false
  | cs => 2 ≤ cs.length && groups 8 false cs

end ServiceDiagram.Url
