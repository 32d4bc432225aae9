/-!
# The front of a text

`behind? word cs` is what a text has behind a word at its front.
-/

namespace ServiceDiagram.Text

variable {α : Type} [DecidableEq α]

/-- the text behind a word, if the text starts with it -/
def behind? : List α → List α → Option (List α)
  | [], cs => some cs
  | _ :: _, [] => none
  | a :: word, c :: cs => if a = c then behind? word cs else none

theorem behind?_append (word cs : List α) : behind? word (word ++ cs) = some cs := by
  induction word with
  | nil => rfl
  | cons a word ih => simp [behind?, ih]

theorem eq_append_of_behind? {word cs rest : List α} (h : behind? word cs = some rest) :
    cs = word ++ rest := by
  fun_induction behind? word cs with
  | case1 cs => cases h; rfl
  | case2 => cases h
  | case3 word c cs ih => rw [ih h, List.cons_append]
  | case4 => cases h

theorem behind?_eq_some_iff {word cs rest : List α} :
    behind? word cs = some rest ↔ cs = word ++ rest :=
  ⟨eq_append_of_behind?, fun h => h ▸ behind?_append word rest⟩

end ServiceDiagram.Text
