import Std.Data.HashMap
import ServiceDiagram.Text.Utf8

/-!
# Literals and copies

A text is a list of tokens: a byte, or a copy of bytes that stand up to 32768 places back.
`tokens` takes at each place the longest copy it finds, and of those the nearest, but not if the next
place has a longer one.  It looks only at places whose three bytes are the same, which the index lists
from the nearest on, and never at the first place of the text.
-/

namespace ServiceDiagram.Zlib

inductive Token where
  | literal (byte : UInt8)
  | copy (length distance : Nat)

/-! ### what tokens mean -/

/-- the bytes with `n` more of them, each equal to the one `distance` back -/
def copyBack? (out : Array UInt8) (distance : Nat) : Nat → Option (Array UInt8)
  | 0 => some out
  | n + 1 =>
    if 0 < distance ∧ distance ≤ out.size then
      match out[out.size - distance]? with
      | some b => copyBack? (out.push b) distance n
      | none => none
    else none

/-- the bytes with what a token stands for behind them -/
def Token.expand? (out : Array UInt8) : Token → Option (Array UInt8)
  | .literal b => some (out.push b)
  | .copy length distance => copyBack? out distance length

/-! ### finding copies -/

/-- places by the three bytes that stand there, nearest first -/
abbrev Index := Std.HashMap (UInt8 × UInt8 × UInt8) (List Nat)

/-- the three bytes at a place -/
def triple? (data : Array UInt8) (i : Nat) : Option (UInt8 × UInt8 × UInt8) :=
  match data[i]?, data[i + 1]?, data[i + 2]? with
  | some a, some b, some c => some (a, b, c)
  | _, _, _ => none

/-- the index with one more place -/
def Index.add (index : Index) (data : Array UInt8) (i : Nat) : Index :=
  match triple? data i with
  | some key => index.insert key (i :: index.getD key [])
  | none => index

/-- the index with `n` more places, from `i` on -/
def Index.addRun (index : Index) (data : Array UInt8) (i : Nat) : Nat → Index
  | 0 => index
  | n + 1 => (index.add data i).addRun data (i + 1) n

/-- the number of equal bytes at two places, up to a limit -/
def agreement (data : Array UInt8) (i j : Nat) : Nat → Nat
  | 0 => 0
  | limit + 1 =>
    match data[i]?, data[j]? with
    | some a, some b => if a = b then agreement data (i + 1) (j + 1) limit + 1 else 0
    | _, _ => 0

def maxLength : Nat := 258

def maxDistance : Nat := 32768

/-- the number of places that are looked at -/
def maxPlaces : Nat := 1024

/-- the better of a copy and what one more place gives -/
def better (data : Array UInt8) (i : Nat) (best : Nat × Nat) (j : Nat) : Nat × Nat :=
  if 0 < j ∧ j < i ∧ i - j ≤ maxDistance ∧ best.1 < maxLength then
    let n := agreement data i j maxLength
    if best.1 < n then (n, i - j) else best
  else best

/-- length and distance of the copy to make at a place; length zero if there is none -/
def longest (data : Array UInt8) (index : Index) (i : Nat) : Nat × Nat :=
  match triple? data i with
  | some key => ((index.getD key []).take maxPlaces).foldl (better data i) (0, 0)
  | none => (0, 0)

/-- the copy to make at a place, unless the next place has a longer one -/
def settled (data : Array UInt8) (index : Index) (i : Nat) : Nat × Nat :=
  let best := longest data index i
  if 3 ≤ best.1 ∧ best.1 < (longest data (index.add data i) (i + 1)).1 then (0, 0) else best

/-- the tokens from a place on -/
def tokensFrom (data : Array UInt8) (index : Index) (i : Nat) : List Token :=
  if h : i < data.size then
    let best := settled data index i
    if _ : 3 ≤ best.1 then
      have : data.size - (i + best.1) < data.size - i := by omega
      .copy best.1 best.2 :: tokensFrom data (index.addRun data i best.1) (i + best.1)
    else .literal data[i] :: tokensFrom data (index.add data i) (i + 1)
  else []
termination_by data.size - i

def tokens (data : Bytes) : List Token := tokensFrom data.toArray ∅ 0

end ServiceDiagram.Zlib
