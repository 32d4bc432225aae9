import ServiceDiagram.Decimal.Binary64

/-!
# Shortest decimals

The decimal text of a double has the fewest digits that read back as the same double, and of those
the nearest.  Of the reals that round to a double, the ends belong to it iff its mantissa is even.
-/

namespace ServiceDiagram.Decimal

/-- a decimal: its digits as a number, and the power of ten they are multiplied by -/
structure Digits where
  digits : Nat
  power : Int

/-- the reals that round to a double, in quarters of its unit: both ends, and whether they belong -/
def interval (x : Binary64) : Nat × Nat × Bool :=
  let low :=
    if x.mantissa = Nat.pow 2 52 ∧ Binary64.leastExponent < x.exponent then 4 * x.mantissa - 1
    else 4 * x.mantissa - 2
  (low, 4 * x.mantissa + 2, x.mantissa % 2 == 0)

/-- a number of quarters of a unit in units of a power of ten, as a quotient -/
def inPowers (quarters : Nat) (e p : Int) : Nat × Nat :=
  let (n, d) := Binary64.scaled quarters (e - 2)
  if p < 0 then (n * Nat.pow 10 (-p).toNat, d) else (n, d * Nat.pow 10 p.toNat)

/-- the nearest multiple of a power of ten that reads back, if there is one -/
def onGrid? (x : Binary64) (p : Int) : Option Nat :=
  let (low, high, ends) := interval x
  let (ln, ld) := inPowers low x.exponent p
  let (hn, hd) := inPowers high x.exponent p
  let (n, d) := inPowers (4 * x.mantissa) x.exponent p
  let within (a : Nat) : Bool :=
    if ends then ln ≤ a * ld && a * hd ≤ hn else ln < a * ld && a * hd < hn
  let a := n / d
  let below := within a
  let above := within (a + 1)
  if below && above then
    let twice := 2 * (n % d)
    if twice < d ∨ (twice = d ∧ a % 2 = 0) then some a else some (a + 1)
  else if below then some a
  else if above then some (a + 1)
  else none

/-- the number of decimal digits in front of the point of a quotient, zero or less for fractions -/
def magnitude (n d : Nat) : Int :=
  if d ≤ n then ((Nat.toDigits 10 (n / d)).length : Int)
  else 1 - ((Nat.toDigits 10 ((d - 1) / n)).length : Int)

/-- the first grid with a hit, from the coarsest on -/
def firstHit? (x : Binary64) (p : Int) : Nat → Option Digits
  | 0 => none
  | k + 1 =>
    match onGrid? x p with
    | some a => some ⟨a, p⟩
    | none => firstHit? x (p - 1) k

def dropZeros (x : Digits) : Nat → Digits
  | 0 => x
  | k + 1 => if x.digits % 10 = 0 ∧ x.digits ≠ 0 then dropZeros ⟨x.digits / 10, x.power + 1⟩ k else x

def shortest (x : Binary64) : Digits :=
  if x.isZero then ⟨0, 0⟩
  else
    let (n, d) := x.ratio
    let top := magnitude n d
    dropZeros ((firstHit? x top 19).getD ⟨n, 0⟩) 20

/-- decimal text: plain with a fraction where the point is near the digits, else with an exponent -/
def text (negative : Bool) (x : Binary64) : String :=
  let ⟨digits, power⟩ := shortest x
  let ds := Nat.toDigits 10 digits
  let point : Int := ds.length + power
  let zeros (k : Int) : List Char := List.replicate k.toNat '0'
  let body :=
    if x.isZero then ['0', '.', '0']
    else if 0 ≤ power ∧ point ≤ 16 then ds ++ zeros power ++ ['.', '0']
    else if 0 < point ∧ point ≤ 16 then ds.take point.toNat ++ '.' :: ds.drop point.toNat
    else if -5 < point ∧ point ≤ 0 then '0' :: '.' :: zeros (-point) ++ ds
    else
      ds.take 1 ++ (if ds.length = 1 then [] else '.' :: ds.drop 1) ++
        'e' :: (toString (point - 1)).toList
  String.ofList ((if negative then ['-'] else []) ++ body)

end ServiceDiagram.Decimal
