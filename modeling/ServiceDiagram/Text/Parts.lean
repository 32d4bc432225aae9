/-!
# Parts of a text

`parts sep` cuts a text at each separator.  There is always at least one part, a text without the
separator is one part, and what is no separator stands in one of the parts.
-/

namespace ServiceDiagram.Text

variable {α : Type} [DecidableEq α]

/-- the parts of a text between its separators -/
def parts (sep : α) : List α → List (List α)
  | [] => [[]]
  | a :: rest =>
    if a = sep then [] :: parts sep rest
    else match parts sep rest with
      | [] => [[a]]
      | part :: more => (a :: part) :: more

theorem parts_sep (sep : α) (rest : List α) : parts sep (sep :: rest) = [] :: parts sep rest := by
  simp [parts]

theorem parts_of_not_mem {sep : α} {as : List α} (h : sep ∉ as) : parts sep as = [as] := by
  induction as with
  | nil => rfl
  | cons a rest ih =>
    rw [List.mem_cons, not_or] at h
    rw [parts, if_neg (Ne.symm h.1), ih h.2]

theorem parts_append_sep {sep : α} {as : List α} (rest : List α) (h : sep ∉ as) :
    parts sep (as ++ sep :: rest) = as :: parts sep rest := by
  induction as with
  | nil => exact parts_sep sep rest
  | cons a more ih =>
    rw [List.mem_cons, not_or] at h
    rw [List.cons_append, parts, if_neg (Ne.symm h.1), ih h.2]

theorem parts_ne_nil (sep : α) (as : List α) : parts sep as ≠ [] := by
  cases as with
  | nil => simp [parts]
  | cons a rest =>
    rw [parts]
    split
    · simp
    · split <;> simp

/-- what is no separator stands in one of the parts -/
theorem exists_mem_parts {sep a : α} {as : List α} (h : a ∈ as) (ha : a ≠ sep) :
    ∃ part ∈ parts sep as, a ∈ part := by
  induction as with
  | nil => exact absurd h List.not_mem_nil
  | cons b rest ih =>
    rw [parts]
    rcases List.mem_cons.mp h with rfl | h
    · rw [if_neg ha]
      split <;> exact ⟨_, List.mem_cons_self, List.mem_cons_self⟩
    · obtain ⟨part, hpart, hmem⟩ := ih h
      split
      · exact ⟨part, List.mem_cons_of_mem _ hpart, hmem⟩
      · cases hp : parts sep rest with
        | nil => exact absurd hp (parts_ne_nil sep rest)
        | cons first more =>
          rw [hp] at hpart
          rcases List.mem_cons.mp hpart with rfl | hpart
          · exact ⟨_, List.mem_cons_self, List.mem_cons_of_mem b hmem⟩
          · exact ⟨part, List.mem_cons_of_mem _ hpart, hmem⟩

end ServiceDiagram.Text
