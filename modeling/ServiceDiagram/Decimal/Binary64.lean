/-!
# Doubles

A finite double that is not negative is `mantissa * 2 ^ exponent` with a mantissa below `2 ^ 53`.
`nearest?` rounds a quotient to one, a tie to the even mantissa, and fails where the result would be
infinite; products and quotients of doubles are exact quotients that are rounded once.
-/

namespace ServiceDiagram.Decimal

/-- a finite double that is not negative -/
structure Binary64 where
  mantissa : Nat
  exponent : Int
  deriving DecidableEq

namespace Binary64

def leastExponent : Int := -1074

def greatestExponent : Int := 971

/-- `n` times two to the power `e`, as a quotient -/
def scaled (n : Nat) (e : Int) : Nat × Nat :=
  if e < 0 then (n, Nat.pow 2 (-e).toNat) else (n * Nat.pow 2 e.toNat, 1)

def ratio (x : Binary64) : Nat × Nat := scaled x.mantissa x.exponent

/-- the quotient as a whole number, rounded half to even -/
def roundHalfEven (num den : Nat) : Nat :=
  let q := num / den
  let r := num % den
  if den < 2 * r ∨ (2 * r = den ∧ q % 2 = 1) then q + 1 else q

/-- `num / den` in units of `2 ^ e` -/
def inUnits (num den : Nat) (e : Int) : Nat × Nat :=
  if e < 0 then (num * Nat.pow 2 (-e).toNat, den) else (num, den * Nat.pow 2 e.toNat)

def exponentFor (num den : Nat) : Int :=
  let e := max leastExponent ((num.log2 : Int) - (den.log2 : Int) - 53)
  let (n, d) := inUnits num den e
  if n / d < Nat.pow 2 53 then e else e + 1

/-- the double nearest to a quotient, unless it is infinite -/
def nearest? (num den : Nat) : Option Binary64 :=
  let e := exponentFor num den
  let (n, d) := inUnits num den e
  let m := roundHalfEven n d
  let x : Binary64 := if m = Nat.pow 2 53 then ⟨Nat.pow 2 52, e + 1⟩ else ⟨m, e⟩
  if greatestExponent < x.exponent ∧ x.mantissa ≠ 0 then none else some x

def mul? (x y : Binary64) : Option Binary64 :=
  nearest? (x.ratio.1 * y.ratio.1) (x.ratio.2 * y.ratio.2)

def div? (x y : Binary64) : Option Binary64 :=
  nearest? (x.ratio.1 * y.ratio.2) (x.ratio.2 * y.ratio.1)

def isZero (x : Binary64) : Bool := x.mantissa == 0

end Binary64

end ServiceDiagram.Decimal
