/-!
# Names in ASCII

A label that starts with `xn--` spells other characters: the ASCII ones in front of the last hyphen, and
then where each of the others is to be inserted, in digits of base 36 whose weights adapt to the
distances so far.
-/

namespace ServiceDiagram.Url.Punycode

def digit? (c : Char) : Option Nat :=
  if 'a' ≤ c ∧ c ≤ 'z' then some (c.toNat - 97)
  else if 'A' ≤ c ∧ c ≤ 'Z' then some (c.toNat - 65)
  else if '0' ≤ c ∧ c ≤ '9' then some (c.toNat - 22)
  else none

/-- the least digit at place `k` after which the number goes on -/
def threshold (k bias : Nat) : Nat := min 26 (max 1 (k - bias))

/-- a distance, made small, and 36 for each step that took -/
def shrink (delta : Nat) : Nat × Nat :=
  if 455 < delta then ((shrink (delta / 35)).1, (shrink (delta / 35)).2 + 36) else (delta, 0)
termination_by delta
decreasing_by all_goals omega

/-- the bias after a distance, with `points` characters in place -/
def adapt (delta points : Nat) (first : Bool) : Nat :=
  let delta := if first then delta / 700 else delta / 2
  let (delta, k) := shrink (delta + delta / points)
  k + 36 * delta / (delta + 38)

/-- where a reading stands: the characters in place, the last one inserted and the place behind it -/
structure State where
  placed : List Char
  last : Nat
  place : Nat
  bias : Nat

/-- numbers of a reader do not exceed 32 bits -/
def bound : Nat := UInt32.size

/-- the state after a distance -/
def State.insert? (s : State) (place : Nat) : Option State :=
  let points := s.placed.length + 1
  let n := s.last + place / points
  let i := place % points
  if h : n.isValidChar then
    some ⟨s.placed.take i ++ Char.ofNatAux n h :: s.placed.drop i, n, i + 1,
      adapt (place - s.place) points (s.place == 0)⟩
  else none

/-- reads distances; `number` holds the place so far, the weight of the next digit and its place -/
def insertions? (s : State) : Option (Nat × Nat × Nat) → List Char → Option (List Char)
  | none, [] => some s.placed
  | some _, [] => none
  | number, c :: rest =>
    let (place, weight, k) := number.getD (s.place, 1, 36)
    match digit? c with
    | none => none
    | some d =>
      let place := place + d * weight
      let t := threshold k s.bias
      if bound ≤ place then none
      else if d < t then
        match s.insert? place with
        | some s => insertions? s none rest
        | none => none
      else if bound ≤ weight * (36 - t) then none
      else insertions? s (some (place, weight * (36 - t), k + 36)) rest

/-- the characters in front of the last hyphen, and those behind it -/
def splitHyphen (cs : List Char) : List Char × List Char :=
  let behind := (cs.reverse.takeWhile (· != '-')).reverse
  (cs.take (cs.length - behind.length - 1), behind)

/-- the characters that a label spells behind its `xn--` -/
def decode? (cs : List Char) : Option (List Char) :=
  let (plain, distances) := splitHyphen cs
  if distances.isEmpty ∨ cs.head? = some '-' ∧ plain.isEmpty then none
  else insertions? ⟨plain, 128, 0, 72⟩ none distances

end ServiceDiagram.Url.Punycode
