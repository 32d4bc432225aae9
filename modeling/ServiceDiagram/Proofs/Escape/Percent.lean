import ServiceDiagram.Escape.Percent
import ServiceDiagram.Proofs.Text.Hex
import ServiceDiagram.Proofs.Text.Replaced
import ServiceDiagram.Proofs.Text.Utf16

/-!
# Percent escapes are undone

`unescapePercent` reads a text once from the left, and each escape becomes its unit
(`replaced_percentUnits`).  So it undoes every escaping, whatever it leaves raw.

* `PercentForm ds w`       `w` has one of the two forms of an escape, with the digits `ds`;
* `PercentWord w us`       `w` is an escape that is read as the unit in `us`;
* `SpellsUnit u w`         `w` is an escape of a unit, its digits in either case;
* `PercentEscaped cs es`   `es` is `cs` with each `%` escaped, and any other characters.
-/

namespace ServiceDiagram.Escape

open Text

variable {c : Char} {cs es w rest : List Char} {u : UInt16} {us : List UInt16}
  {ws : List (List Char)}

/-! ### the forms of an escape -/

/-- the two forms of an escape, with the digits in them -/
inductive PercentForm : List Char → List Char → Prop
  | long (a b c d : Char) : PercentForm [a, b, c, d] ['%', 'u', a, b, c, d]
  | short (a b : Char) : PercentForm [a, b] ['%', a, b]

/-- **An escape, and the unit that it stands for** -/
def PercentWord (w : List Char) (us : List UInt16) : Prop :=
  ∃ ds n, PercentForm ds w ∧ hexNumber? ds = some n ∧ us = [n.toUInt16]

theorem percent?_eq_some_iff :
    percent? cs = some (u, rest) ↔ ∃ w, PercentWord w [u] ∧ cs = w ++ rest := by
  constructor
  · intro h
    unfold percent? at h
    split at h
    · obtain ⟨n, hn, he⟩ := Option.map_eq_some_iff.mp h
      cases he
      exact ⟨_, ⟨_, n, .long _ _ _ _, hn, rfl⟩, rfl⟩
    · obtain ⟨n, hn, he⟩ := Option.map_eq_some_iff.mp h
      cases he
      exact ⟨_, ⟨_, n, .short _ _, hn, rfl⟩, rfl⟩
    · cases h
  · rintro ⟨w, ⟨ds, n, hform, hn, hu⟩, rfl⟩
    cases hu
    cases hform with
    | long a b c d =>
      show percent? ('%' :: 'u' :: a :: b :: c :: d :: rest) = _
      rw [percent?, hn]
      rfl
    | short a b =>
      -- the first digit is no `u`
      have hdigits := isSome_hexNumber?.mp (Option.isSome_of_eq_some hn)
      have ha : a ≠ 'u' := by
        rintro rfl
        exact absurd (hdigits 'u' List.mem_cons_self) (by decide)
      show percent? ('%' :: a :: b :: rest) = _
      unfold percent?
      split
      · next he =>
        obtain ⟨rfl, -⟩ := List.cons.inj (List.cons.inj he).2
        exact absurd rfl ha
      · next he =>
        cases he
        rw [hn]
        rfl
      · next hother => exact absurd rfl (hother a b rest)

/-! ### reading -/

theorem percentUnits_word (h : PercentWord w [u]) (rest : List Char) :
    percentUnits (w ++ rest) = u :: percentUnits rest := by
  have hsome : percent? (w ++ rest) = some (u, rest) := percent?_eq_some_iff.mpr ⟨w, h, rfl⟩
  rw [percentUnits]
  split
  · next h' =>
    cases h'.symm.trans hsome
    rfl
  · next h' => cases h'.symm.trans hsome

theorem percentUnits_raw (h : c ≠ '%') (rest : List Char) :
    percentUnits (c :: rest) = units c ++ percentUnits rest := by
  have hnone : percent? (c :: rest) = none := by
    unfold percent?
    split
    · next he => exact absurd (List.cons.inj he).1 h
    · next he => exact absurd (List.cons.inj he).1 h
    · rfl
  rw [percentUnits]
  split
  · next h' => cases h'.symm.trans hnone
  · rfl

/-- **The units of a text are those of one reading**, in which each escape becomes its unit. -/
theorem replaced_percentUnits (cs : List Char) :
    Replaced PercentWord units cs (percentUnits cs) := by
  fun_induction percentUnits cs with
  | case1 cs u rest h _ ih =>
    obtain ⟨w, hw, rfl⟩ := percent?_eq_some_iff.mp h
    exact .word hw ih
  | case2 h => exact .nil
  | case3 c rest h ih =>
    refine .char (fun w us hw hfront => ?_) ih
    obtain ⟨ds, n, hform, hn, rfl⟩ := hw
    obtain ⟨behind, hcs⟩ := hfront
    cases h.symm.trans (percent?_eq_some_iff.mpr ⟨w, ⟨ds, n, hform, hn, rfl⟩, hcs.symm⟩)

/-! ### escaping -/

/-- an escape of a unit, its digits in either case -/
def SpellsUnit (u : UInt16) (w : List Char) : Prop :=
  ∃ ds, PercentForm ds w ∧ SpellsNumber u.toNat ds

/-- **A text with each `%` escaped, and any other characters**, each by an escape for each of its
units -/
inductive PercentEscaped : List Char → List Char → Prop
  | nil : PercentEscaped [] []
  | raw {x : Char} {xs ys : List Char} (h : x ≠ '%') (hrest : PercentEscaped xs ys) :
      PercentEscaped (x :: xs) (x :: ys)
  | escape {x : Char} {xs ys : List Char} {forms : List (List Char)}
      (h : List.Forall₂ SpellsUnit (units x) forms) (hrest : PercentEscaped xs ys) :
      PercentEscaped (x :: xs) (forms.flatten ++ ys)

theorem SpellsUnit.percentWord (h : SpellsUnit u w) : PercentWord w [u] := by
  obtain ⟨ds, hform, hds⟩ := h
  refine ⟨ds, u.toNat, hform, hexNumber?_spelt hds, ?_⟩
  rw [Nat.toUInt16_eq, UInt16.ofNat_toNat]

theorem percentUnits_spelt (h : List.Forall₂ SpellsUnit us ws) (rest : List Char) :
    percentUnits (ws.flatten ++ rest) = us ++ percentUnits rest := by
  induction h with
  | nil => rfl
  | cons hu _ ih =>
    rw [List.flatten_cons, List.append_assoc, percentUnits_word hu.percentWord, ih]
    rfl

theorem percentUnits_escaped (h : PercentEscaped cs es) : percentUnits es = cs.flatMap units := by
  induction h with
  | nil =>
    rw [percentUnits]
    rfl
  | raw hc _ ih => rw [percentUnits_raw hc, ih, List.flatMap_cons]
  | escape hws _ ih => rw [percentUnits_spelt hws, ih, List.flatMap_cons]

/-- **Every percent escaping is undone**: whichever characters besides `%` are escaped, in whichever
form each of their units is, and whatever stands next to an escape. -/
theorem unescapePercent_escaped {s e : String} (h : PercentEscaped s.toList e.toList) :
    unescapePercent e = s := by
  rw [unescapePercent, percentUnits_escaped h, ofUnits_flatMap_units, String.ofList_toList]

/-- a pair of surrogates, and letters behind it that could be digits -/
theorem unescapePercent_escaped_pair :
    PercentEscaped "é😀fe%".toList "%E9%uD83D%ude00fe%25".toList ∧
      unescapePercent "%E9%uD83D%ude00fe%25" = "é😀fe%" := by
  have haccent : List.Forall₂ SpellsUnit (units 'é') [['%', 'E', '9']] :=
    .cons ⟨_, .short _ _, by unfold SpellsNumber; decide⟩ .nil
  have hface : List.Forall₂ SpellsUnit (units '😀')
      [['%', 'u', 'D', '8', '3', 'D'], ['%', 'u', 'd', 'e', '0', '0']] :=
    .cons ⟨_, .long _ _ _ _, by unfold SpellsNumber; decide⟩
      (.cons ⟨_, .long _ _ _ _, by unfold SpellsNumber; decide⟩ .nil)
  have hpercent : List.Forall₂ SpellsUnit (units '%') [['%', '2', '5']] :=
    .cons ⟨_, .short _ _, by unfold SpellsNumber; decide⟩ .nil
  have h : PercentEscaped "é😀fe%".toList "%E9%uD83D%ude00fe%25".toList :=
    .escape haccent (.escape hface
      (.raw (by decide) (.raw (by decide) (.escape hpercent .nil))))
  exact ⟨h, unescapePercent_escaped h⟩

end ServiceDiagram.Escape
