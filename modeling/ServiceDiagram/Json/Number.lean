import ServiceDiagram.Decimal.Shortest
import ServiceDiagram.Json.Fault

/-!
# Numbers of JSON

No field of a document is a number.  `skipNumber` checks the syntax of one that is ignored, of any
size; `findNumber` reads one that stands in the place of something else, so that the fault can name
it: as an integer if it fits 64 bits, else as a double.
-/

namespace ServiceDiagram.Json

def digit? (b : UInt8) : Option Nat := if 48 ≤ b ∧ b ≤ 57 then some (b.toNat - 48) else none

def isDigit (b : UInt8) : Bool := (digit? b).isSome

def skipDigits (bs : Bytes) : Bytes := bs.dropWhile isDigit

/-! ### numbers that are ignored -/

def skipSign : Bytes → Bytes
  | [] => []
  | b :: rest => if b = 0x2b ∨ b = 0x2d then rest else b :: rest

def skipSomeDigits : Bytes → Except Fault Bytes
  | [] => .error .invalidNumber
  | b :: rest => if isDigit b then .ok (skipDigits rest) else .error .invalidNumber

def skipExponent : Bytes → Except Fault Bytes
  | [] => .ok []
  | b :: rest =>
    if b = 0x65 ∨ b = 0x45 then skipSomeDigits (skipSign rest) else .ok (b :: rest)

def skipFraction : Bytes → Except Fault Bytes
  | [] => .ok []
  | b :: rest =>
    if b = 0x2e then
      match skipSomeDigits rest with
      | .ok more => skipExponent more
      | .error e => .error e
    else skipExponent (b :: rest)

/-- the bytes behind a number without its sign -/
def skipNumber : Bytes → Except Fault Bytes
  | [] => .error .invalidNumber
  | b :: rest =>
    if b = 0x30 then
      match rest with
      | d :: _ => if isDigit d then .error .invalidNumber else skipFraction rest
      | [] => .ok []
    else if isDigit b then skipFraction (skipDigits rest)
    else .error .invalidNumber

/-! ### numbers that are named in a fault -/

/-- the least number that 64 bits do not hold -/
def wordLimit : Nat := UInt64.size

/-- ten to a power of at most 308, as a double -/
def powerOfTen (k : Nat) : Decimal.Binary64 := (Decimal.Binary64.nearest? (Nat.pow 10 k) 1).getD ⟨0, 0⟩

/-- a double times a power of ten, in steps of at most 308 -/
def scaleByTen : Nat → Decimal.Binary64 → Int → Except Fault Decimal.Binary64
  | 0, x, _ => .ok x
  | fuel + 1, x, e =>
    if e.natAbs ≤ 308 then
      let p := powerOfTen e.natAbs
      match (if 0 ≤ e then x.mul? p else x.div? p) with
      | some y => .ok y
      | none => .error .numberOutOfRange
    else if x.isZero then .ok x
    else if 0 ≤ e then .error .numberOutOfRange
    else match x.div? (powerOfTen 308) with
      | some y => scaleByTen fuel y (e + 308)
      | none => .error .numberOutOfRange

/-- the double of a number with sign, digits and exponent -/
def findFloat (negative : Bool) (significand : Nat) (exponent : Int) : Except Fault Found :=
  match Decimal.Binary64.nearest? significand 1 with
  | some x => (scaleByTen 8 x exponent).map fun y => .float (Decimal.text negative y)
  | none => .error .numberOutOfRange

/-- the digits that are next, as a number, up to a limit on the exponent; `none` above it -/
def exponentDigits (n : Nat) : Bytes → Option Nat
  | [] => some n
  | b :: rest =>
    match digit? b with
    | some d => if Nat.pow 2 31 ≤ n * 10 + d then none else exponentDigits (n * 10 + d) rest
    | none => some n

/-- the number whose digits are read, with an exponent of which the letter is read -/
def findExponent (negative : Bool) (significand : Nat) (exponent : Int) (bs : Bytes) :
    Except Fault Found :=
  let (down, unsigned) := match bs with
    | b :: rest => if b = 0x2b then (false, rest) else if b = 0x2d then (true, rest) else (false, bs)
    | [] => (false, bs)
  match unsigned with
  | [] => .error .endInValue
  | b :: rest =>
    match digit? b with
    | none => .error .invalidNumber
    | some d =>
      match exponentDigits d rest with
      | some n => findFloat negative significand (if down then exponent - n else exponent + n)
      | none =>
        if significand ≠ 0 ∧ ¬ down then .error .numberOutOfRange
        else .ok (.float (Decimal.text negative ⟨0, 0⟩))

/-- the number whose digits are read, with the exponent that may follow -/
def findTail (negative : Bool) (significand : Nat) (exponent : Int) : Bytes → Except Fault Found
  | b :: rest =>
    if b = 0x65 ∨ b = 0x45 then findExponent negative significand exponent rest
    else findFloat negative significand exponent
  | [] => findFloat negative significand exponent

/-- the number with the digits behind the point, of which `count` are read; digits beyond 64 bits
are left out -/
def findDecimals (negative : Bool) (significand : Nat) (exponent : Int) (count : Nat) :
    Bytes → Except Fault Found
  | [] => if count = 0 then .error .endInValue else findTail negative significand exponent []
  | b :: rest =>
    match digit? b with
    | some d =>
      if wordLimit ≤ significand * 10 + d then
        findTail negative significand exponent (skipDigits rest)
      else findDecimals negative (significand * 10 + d) (exponent - 1) (count + 1) rest
    | none =>
      if count = 0 then .error .invalidNumber else findTail negative significand exponent (b :: rest)

/-- the number whose digits in front of the point do not fit 64 bits -/
def findLong (negative : Bool) (significand : Nat) (exponent : Int) : Bytes → Except Fault Found
  | [] => findFloat negative significand exponent
  | b :: rest =>
    if isDigit b then findLong negative significand (exponent + 1) rest
    else if b = 0x2e then findDecimals negative significand exponent 0 rest
    else if b = 0x65 ∨ b = 0x45 then findExponent negative significand exponent rest
    else findFloat negative significand exponent

/-- the integer with these digits; a negative one that does not fit 64 bits, and the negative zero,
are doubles -/
def findWhole (negative : Bool) (significand : Nat) : Except Fault Found :=
  if ¬ negative then .ok (.integer significand)
  else if significand = 0 ∨ Nat.pow 2 63 < significand then findFloat true significand 0
  else .ok (.integer (-significand))

/-- the number of which the first digits are read -/
def findDigits (negative : Bool) (significand : Nat) : Bytes → Except Fault Found
  | [] => findWhole negative significand
  | b :: rest =>
    match digit? b with
    | some d =>
      if wordLimit ≤ significand * 10 + d then findLong negative significand 1 rest
      else findDigits negative (significand * 10 + d) rest
    | none =>
      if b = 0x2e then findDecimals negative significand 0 0 rest
      else if b = 0x65 ∨ b = 0x45 then findExponent negative significand 0 rest
      else findWhole negative significand

/-- the number that stands here, its sign read -/
def findNumber (negative : Bool) : Bytes → Except Fault Found
  | [] => .error .endInValue
  | b :: rest =>
    if b = 0x30 then
      match rest with
      | d :: _ => if isDigit d then .error .invalidNumber else findDigits negative 0 rest
      | [] => findWhole negative 0
    else match digit? b with
      | some d => findDigits negative d rest
      | none => .error .invalidNumber

end ServiceDiagram.Json
