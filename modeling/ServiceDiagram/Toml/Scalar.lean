import ServiceDiagram.Text.Front
import ServiceDiagram.Text.Hex
import ServiceDiagram.Toml.Value

/-!
# Numbers, words and dates of TOML

A scalar is a run of letters, digits and a few signs; `scalarOf?` says which value it is, if any.
-/

namespace ServiceDiagram.Toml

open Text (behind? ofDigits)

/-! ### numbers -/

/-- digits without the underscores between them -/
def digits? (isDigit : Char → Bool) : Bool → List Char → Option (List Char)
  | afterDigit, [] => if afterDigit then some [] else none
  | afterDigit, c :: rest =>
    if c = '_' then if afterDigit then digits? isDigit false rest else none
    else if isDigit c then (digits? isDigit true rest).map (c :: ·)
    else none

/-- a number in another base than ten -/
def based? (base : Nat) (isDigit : Char → Bool) (cs : List Char) : Option Value :=
  (digits? isDigit false cs).map fun ds => .integer (ofDigits base ds)

/-- the text without its sign, and whether that is a minus -/
def unsign : List Char → Bool × List Char
  | '-' :: rest => (true, rest)
  | '+' :: rest => (false, rest)
  | cs => (false, cs)

def isExponentMark (c : Char) : Bool := c == 'e' || c == 'E'

/-- the exponent behind its mark; without digits there is none -/
def exponent? (cs : List Char) : Option Int :=
  let (negative, ds) := unsign cs
  (digits? Char.isDigit false ds).map fun ds =>
    if negative then -(ofDigits 10 ds : Int) else ofDigits 10 ds

/-- the least number that is not nearest to a finite double -/
def firstInfinite : Nat := Nat.pow 2 1024 - Nat.pow 2 970

/-- a decimal that is greater than all doubles -/
def overflows (digits : Nat) (power : Int) : Bool :=
  let places : Int := (Nat.toDigits 10 digits).length + power
  if digits = 0 ∨ places < 300 then false
  else if 320 < places then true
  else if 0 ≤ power then firstInfinite ≤ digits * Nat.pow 10 power.toNat
  else firstInfinite * Nat.pow 10 (-power).toNat ≤ digits

/-- a number with a fraction or an exponent behind its whole digits -/
def floatTail? (whole : List Char) : List Char → Option Value
  | [] => none
  | c :: rest =>
    if c = '.' then
      let fraction := rest.takeWhile fun c => !isExponentMark c
      match digits? Char.isDigit false fraction, rest.drop fraction.length with
      | none, _ => none
      | some ds, [] => some (.float (overflows (ofDigits 10 (whole ++ ds)) (-ds.length)))
      | some ds, _ :: e =>
        (exponent? e).map fun e => .float (overflows (ofDigits 10 (whole ++ ds)) (e - ds.length))
    else (exponent? rest).map fun e => .float (overflows (ofDigits 10 whole) e)

def decimal? (cs : List Char) : Option Value :=
  let (negative, body) := unsign cs
  if body = ['i', 'n', 'f'] ∨ body = ['n', 'a', 'n'] then some (.float false)
  else
    let whole := body.takeWhile fun c => c != '.' && !isExponentMark c
    match digits? Char.isDigit false whole with
    | none => none
    | some ds =>
      if 1 < ds.length ∧ ds.head? = some '0' then none
      else match body.drop whole.length with
        | [] => some (.integer (if negative then -(ofDigits 10 ds : Int) else ofDigits 10 ds))
        | tail => floatTail? ds tail

/-! ### dates and times -/

/-- the number of two digits between two bounds, and the text behind it -/
def twoDigits? (low high : Nat) : List Char → Option (Nat × List Char)
  | a :: b :: rest =>
    if a.isDigit ∧ b.isDigit then
      let n := ofDigits 10 [a, b]
      if low ≤ n ∧ n ≤ high then some (n, rest) else none
    else none
  | _ => none

def isLeapYear (y : Nat) : Bool := y % 4 == 0 && (y % 100 != 0 || y % 400 == 0)

def daysOf (year month : Nat) : Nat :=
  if month = 2 then if isLeapYear year then 29 else 28
  else if month = 4 ∨ month = 6 ∨ month = 9 ∨ month = 11 then 30
  else 31

def date? (cs : List Char) : Option (List Char) := do
  let (century, rest) ← twoDigits? 0 99 cs
  let (year, rest) ← twoDigits? 0 99 rest
  let (month, rest) ← twoDigits? 1 12 (← behind? ['-'] rest)
  let (_, rest) ← twoDigits? 1 (daysOf (100 * century + year) month) (← behind? ['-'] rest)
  return rest

/-- the text behind the fraction of a second -/
def fraction? : List Char → Option (List Char)
  | '.' :: c :: rest => if c.isDigit then some (rest.dropWhile Char.isDigit) else none
  | '.' :: [] => none
  | cs => some cs

/-- the text behind a time; seconds may be left out -/
def time? (cs : List Char) : Option (List Char) := do
  let (_, rest) ← twoDigits? 0 23 cs
  let (_, rest) ← twoDigits? 0 59 (← behind? [':'] rest)
  match rest with
  | ':' :: rest =>
    let (_, rest) ← twoDigits? 0 60 rest
    fraction? rest
  | _ => return rest

/-- nothing, or the distance from universal time -/
def isOffset (cs : List Char) : Bool :=
  match cs with
  | [] => true
  | c :: rest =>
    if c = 'Z' ∨ c = 'z' then rest.isEmpty
    else if c = '+' ∨ c = '-' then
      match twoDigits? 0 23 rest with
      | some (_, ':' :: rest) => (twoDigits? 0 59 rest).any (·.2.isEmpty)
      | _ => false
    else false

/-- a date, a time, or a date and a time -/
def isMoment (cs : List Char) : Bool :=
  match date? cs with
  | some [] => true
  | some (c :: rest) => (c == 'T' || c == 't' || c == ' ') && (time? rest).any isOffset
  | none => (time? cs).any (·.isEmpty)

/-! ### scalars -/

def isScalarChar (c : Char) : Bool :=
  c.isAlphanum || c == '_' || c == '+' || c == '-' || c == '.' || c == ':'

/-- the scalar at the start of a text, and the text behind it; a time may follow a date and a space -/
def takeScalar (cs : List Char) : List Char × List Char :=
  let run := cs.takeWhile isScalarChar
  match date? run, cs.drop run.length with
  | some [], ' ' :: c :: rest =>
    if c.isDigit then
      let more := (c :: rest).takeWhile isScalarChar
      (run ++ ' ' :: more, (c :: rest).drop more.length)
    else (run, ' ' :: c :: rest)
  | _, rest => (run, rest)

def scalarOf? (cs : List Char) : Option Value :=
  match cs with
  | ['t', 'r', 'u', 'e'] => some (.boolean true)
  | ['f', 'a', 'l', 's', 'e'] => some (.boolean false)
  | '0' :: 'x' :: ds => based? 16 (fun c => (Text.hexValue? c).isSome) ds
  | '0' :: 'o' :: ds => based? 8 (fun c => '0' ≤ c && c ≤ '7') ds
  | '0' :: 'b' :: ds => based? 2 (fun c => c == '0' || c == '1') ds
  | _ => if isMoment cs then some .moment else decimal? cs

end ServiceDiagram.Toml
