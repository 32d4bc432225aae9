import Mathlib.Data.List.DropRight
import Mathlib.Data.List.TakeWhile
import ServiceDiagram.Proofs.Json.Bytes
import ServiceDiagram.Proofs.Text.Cuts
import ServiceDiagram.Text.Blank

/-!
# Trimmed texts

`Trimmed s` says that a text has no blank at its ends.  Trimming makes it so, and nothing new
(`trimmed_trim`, `mem_of_mem_trimChars`).  A line of an input has its line feed at the end, where it is
trimmed away; one that is left stands before something else (`lineFeed_mem_trimChars`).
-/

namespace ServiceDiagram.Text

def Trimmed (s : String) : Prop := trim s = s

instance (s : String) : Decidable (Trimmed s) := inferInstanceAs (Decidable (trim s = s))

variable {cs : List Char} {s : String}

/-! ### characters -/

theorem trimChars_eq (cs : List Char) :
    trimChars cs = (cs.dropWhile isBlank).rdropWhile isBlank := rfl

theorem mem_of_mem_trimChars {c : Char} (h : c ∈ trimChars cs) : c ∈ cs := by
  rw [trimChars_eq] at h
  exact (List.dropWhile_suffix isBlank).mem ((List.rdropWhile_prefix isBlank _).mem h)

theorem trimChars_append (cs : List Char) :
    ∃ front back, cs = front ++ trimChars cs ++ back := by
  obtain ⟨front, hfront⟩ := List.dropWhile_suffix isBlank (l := cs)
  obtain ⟨back, hback⟩ := List.rdropWhile_prefix isBlank (cs.dropWhile isBlank)
  refine ⟨front, back, ?_⟩
  rw [List.append_assoc, trimChars_eq, hback, hfront]

theorem getLast_trimChars (h : trimChars cs ≠ []) : ¬ isBlank ((trimChars cs).getLast h) :=
  List.rdropWhile_last_not isBlank _ h

theorem trimChars_trimChars (cs : List Char) : trimChars (trimChars cs) = trimChars cs := by
  have hfront : (trimChars cs).dropWhile isBlank = trimChars cs := by
    -- what is left begins like the list without its blanks in front
    have hhead := List.dropWhile_eq_self_iff.mp (List.dropWhile_idempotent isBlank cs)
    have hstart := List.rdropWhile_prefix isBlank (cs.dropWhile isBlank)
    refine List.dropWhile_eq_self_iff.mpr fun hl => ?_
    have hlength : 0 < (cs.dropWhile isBlank).length := Nat.lt_of_lt_of_le hl hstart.length_le
    have hsame : (trimChars cs)[0] = (cs.dropWhile isBlank)[0] := hstart.getElem hl
    rw [hsame]
    exact hhead hlength
  rw [trimChars_eq (trimChars cs), hfront, trimChars_eq, List.rdropWhile_idempotent]

theorem trimChars_concat {c : Char} (h : isBlank c) : trimChars (cs ++ [c]) = trimChars cs := by
  rw [trimChars_eq, trimChars_eq, List.dropWhile_append]
  split
  · next hall =>
    rw [List.isEmpty_iff.mp hall, List.dropWhile_cons_of_pos h]
    rfl
  · exact List.rdropWhile_concat_pos isBlank _ c h

/-! ### texts -/

theorem trimmed_trim (s : String) : Trimmed (trim s) := by
  show String.ofList (trimChars (trim s).toList) = trim s
  rw [toList_trim, trimChars_trimChars]
  rfl

theorem OneLine.trim (h : OneLine s) : OneLine (trim s) := by
  unfold OneLine
  rw [toList_trim]
  exact fun hm => h (mem_of_mem_trimChars hm)

/-- a line feed that is left stands before something that is no blank -/
theorem lineFeed_mem_trimChars (h : '\n' ∈ trimChars cs) :
    ∃ front back, cs = front ++ '\n' :: back ∧ back ≠ [] := by
  obtain ⟨before, behind, hcs⟩ := trimChars_append cs
  obtain ⟨front, back, hmid⟩ := List.append_of_mem h
  refine ⟨before ++ front, back ++ behind, ?_, fun hnil => ?_⟩
  · rw [hcs, hmid]
    simp only [List.append_assoc, List.cons_append]
  · have hback : back = [] := (List.append_eq_nil_iff.mp hnil).1
    have hne : trimChars cs ≠ [] := List.ne_nil_of_mem h
    have hlast : (trimChars cs).getLast hne = '\n' := by
      simp only [hmid, hback, List.getLast_append_singleton]
    have hblank := getLast_trimChars hne
    rw [hlast] at hblank
    exact hblank (by decide)

end ServiceDiagram.Text
