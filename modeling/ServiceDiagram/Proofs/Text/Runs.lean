import Mathlib.Data.List.TakeWhile

/-!
# Runs of characters

Readers take a run of characters that pass a test, and go on where the run stops.  So a text that is cut
where a run stops is cut there by its reader (`takeWhile_run`, `dropWhile_run`); whether a run stops is
told by the first character behind it.
-/

namespace ServiceDiagram.Text

variable {α : Type} {p : α → Bool} {a : α} {as bs run rest : List α}

theorem forall_head_cons {q : α → Prop} (h : q a) : ∀ b ∈ (a :: as).head?, q b := by
  intro b hb
  obtain rfl := Option.some.inj hb
  exact h

theorem forall_head_append {q : α → Prop} (has : ∀ a ∈ as.head?, q a) (hbs : ∀ b ∈ bs.head?, q b) :
    ∀ c ∈ (as ++ bs).head?, q c := by
  cases as with
  | nil => exact hbs
  | cons a as => exact has

theorem takeWhile_none (hrest : ∀ a ∈ rest.head?, p a = false) : rest.takeWhile p = [] := by
  cases rest with
  | nil => rfl
  | cons a rest => rw [List.takeWhile_cons, hrest a rfl, if_neg Bool.false_ne_true]

theorem dropWhile_none (hrest : ∀ a ∈ rest.head?, p a = false) : rest.dropWhile p = rest := by
  cases rest with
  | nil => rfl
  | cons a rest => rw [List.dropWhile_cons, hrest a rfl, if_neg Bool.false_ne_true]

/-- **A run is what its reader takes**, whatever stands behind it. -/
theorem takeWhile_run (hrun : ∀ a ∈ run, p a = true) (hrest : ∀ a ∈ rest.head?, p a = false) :
    (run ++ rest).takeWhile p = run := by
  rw [List.takeWhile_append_of_pos hrun, takeWhile_none hrest, List.append_nil]

/-- **What is behind a run is what its reader leaves.** -/
theorem dropWhile_run (hrun : ∀ a ∈ run, p a = true) (hrest : ∀ a ∈ rest.head?, p a = false) :
    (run ++ rest).dropWhile p = rest := by
  rw [List.dropWhile_append_of_pos hrun, dropWhile_none hrest]

end ServiceDiagram.Text
