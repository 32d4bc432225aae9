import ServiceDiagram.Text.Hex
import ServiceDiagram.Text.Utf16

/-!
# Percent escapes

`%uXXXX` and `%XX` stand for the sixteen-bit unit with that number; a `%` that starts no escape is
an ordinary character.  Two escapes side by side can be the halves of one character, so the units of
the whole text are collected before they are read as characters.
-/

namespace ServiceDiagram.Escape

open Text

/-- the escape at the start of a text: its unit, and the text behind it -/
def percent? : List Char → Option (UInt16 × List Char)
  | '%' :: 'u' :: a :: b :: c :: d :: rest =>
    (hexNumber? [a, b, c, d]).map fun n => (n.toUInt16, rest)
  | '%' :: a :: b :: rest => (hexNumber? [a, b]).map fun n => (n.toUInt16, rest)
  | _ => none

theorem length_lt_of_percent? {cs rest : List Char} {u : UInt16} (h : percent? cs = some (u, rest)) :
    rest.length < cs.length := by
  unfold percent? at h
  split at h
  · obtain ⟨_, _, e⟩ := Option.map_eq_some_iff.mp h
    cases e
    simp only [List.length_cons]
    omega
  · obtain ⟨_, _, e⟩ := Option.map_eq_some_iff.mp h
    cases e
    simp only [List.length_cons]
    omega
  · cases h

/-- the units of a text, an escape being the unit it stands for -/
def percentUnits (cs : List Char) : List UInt16 :=
  match h : percent? cs with
  | some (u, rest) =>
    have := length_lt_of_percent? h
    u :: percentUnits rest
  | none =>
    match cs with
    | [] => []
    | c :: rest => units c ++ percentUnits rest
termination_by cs.length

def unescapePercent (s : String) : String := String.ofList (ofUnits (percentUnits s.toList))

end ServiceDiagram.Escape
