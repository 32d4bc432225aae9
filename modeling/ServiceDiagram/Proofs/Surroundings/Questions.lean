import ServiceDiagram.Surroundings.Terminal

/-!
# Questions and lines

A question at the terminal is asked once for each line that it reads, and once more if the lines are at
an end.  So the questions asked and the lines left are together what they were, as long as there are
answers (`input_ok`, `selectFrom_ok`), and one more at most where there is none.

* `Terminal.lineCount`    the lines of an input;
* `Terminal.questions`    the questions that were shown, each repetition counted;
* `Terminal.balance`      the questions that were shown and the lines that are left.
-/

namespace ServiceDiagram

def Request.asks : Request → Bool
  | .input _ _ | .select _ _ _ => true
  | _ => false

namespace Terminal

/-! ### lines -/

/-- the lines of an input: the line feeds, and what may stand behind the last one -/
def lineCount (input : Bytes) : Nat :=
  input.count 0x0a + if input.getLast?.any (· ≠ 0x0a) then 1 else 0

theorem lineCount_lineFeed {line : Bytes} (h : 0x0a ∉ line) (rest : Bytes) :
    lineCount (line ++ 0x0a :: rest) = lineCount rest + 1 := by
  have hcount : line.count 0x0a = 0 := List.count_eq_zero.mpr h
  unfold lineCount
  rw [List.count_append, hcount, List.count_cons_self, List.getLast?_append]
  cases rest with
  | nil => rfl
  | cons b rest =>
    rw [List.getLast?_cons_cons, List.getLast?_cons, Option.some_or]
    omega

theorem lineCount_of_not_mem {line : Bytes} (h : 0x0a ∉ line) (hne : line ≠ []) :
    lineCount line = 1 := by
  have hlast : line.getLast hne ≠ 0x0a := fun he => h (he ▸ List.getLast_mem hne)
  unfold lineCount
  rw [List.count_eq_zero.mpr h, List.getLast?_eq_some_getLast hne, Option.any_some,
    if_pos (decide_eq_true hlast)]

theorem length_cutLines {line : Bytes} (h : 0x0a ∉ line) (input : Bytes) :
    (cutLines line input).length = lineCount (line.reverse ++ input) := by
  induction input generalizing line with
  | nil =>
    rw [cutLines, List.append_nil]
    cases line with
    | nil => rfl
    | cons b line =>
      rw [lineCount_of_not_mem (by rwa [List.mem_reverse]) (by simp)]
      rfl
  | cons b input ih =>
    rw [cutLines]
    split
    · next hb =>
      have hrest : (cutLines [] input).length = lineCount input := ih List.not_mem_nil
      rw [List.length_cons, hrest, hb, lineCount_lineFeed (by rwa [List.mem_reverse])]
    · next hb =>
      have hline : 0x0a ∉ b :: line := by
        rw [List.mem_cons, not_or]
        exact ⟨Ne.symm hb, h⟩
      rw [ih hline, List.reverse_cons, List.append_assoc]
      rfl

theorem length_lines_new (input : Bytes) : (new input).lines.length = lineCount input :=
  length_cutLines List.not_mem_nil input

/-! ### questions -/

def questions (t : Terminal) : Nat := t.shown.countP Shown.isQuestion

/-- the questions that were asked and the lines that are left -/
def balance (t : Terminal) : Nat := t.questions + t.lines.length

theorem balance_new (input : Bytes) : (new input).balance = lineCount input := by
  show 0 + (new input).lines.length = _
  rw [Nat.zero_add, length_lines_new]

theorem balance_answered {question : Shown} (h : question.isQuestion) (line : Bytes)
    (rest : List Bytes) (shown : List Shown) :
    (⟨rest, shown ++ [question]⟩ : Terminal).balance =
      (⟨line :: rest, shown⟩ : Terminal).balance := by
  show (shown ++ [question]).countP _ + rest.length = shown.countP _ + (rest.length + 1)
  rw [List.countP_append, List.countP_singleton, if_pos h]
  omega

theorem balance_unanswered {question : Shown} (h : question.isQuestion) (shown : List Shown) :
    (⟨[], shown ++ [question]⟩ : Terminal).balance = (⟨[], shown⟩ : Terminal).balance + 1 := by
  show (shown ++ [question]).countP _ + 0 = shown.countP _ + 0 + 1
  rw [List.countP_append, List.countP_singleton, if_pos h]

theorem balance_told {note : Shown} (h : ¬ note.isQuestion) (lines : List Bytes)
    (shown : List Shown) :
    (⟨lines, shown ++ [note]⟩ : Terminal).balance = (⟨lines, shown⟩ : Terminal).balance := by
  show (shown ++ [note]).countP _ + lines.length = shown.countP _ + lines.length
  rw [List.countP_append, List.countP_singleton, if_neg h, Nat.add_zero]

theorem isQuestion_question (message default : String) :
    (Shown.question message default).isQuestion := rfl

theorem isQuestion_menu (message : String) (choices : List String) (default : Nat) :
    (Shown.menu message choices default).isQuestion := rfl

theorem not_isQuestion_complaint : ¬ Shown.complaint.isQuestion := Bool.false_ne_true

theorem not_isQuestion_note (text : String) : ¬ (Shown.note text).isQuestion := Bool.false_ne_true

section
variable {message default : String} {choices : List String} {preset : Nat} {t t' : Terminal}

theorem input_ok {answer : String} (h : input message default t = (.ok answer, t')) :
    t'.lines.length < t.lines.length ∧ t'.balance = t.balance := by
  obtain ⟨lines, shown⟩ := t
  cases lines with
  | nil => cases h
  | cons line rest =>
    unfold input at h
    simp only at h
    split at h
    · cases h
    · obtain ⟨-, rfl⟩ := Prod.mk.inj h
      exact ⟨Nat.lt_succ_self _, balance_answered (isQuestion_question message default) line rest shown⟩

theorem input_le (message default : String) (t : Terminal) :
    (input message default t).2.lines.length ≤ t.lines.length ∧
      (input message default t).2.balance ≤ t.balance + 1 := by
  obtain ⟨lines, shown⟩ := t
  cases lines with
  | nil =>
    exact ⟨Nat.le_refl _, Nat.le_of_eq (balance_unanswered (isQuestion_question message default) _)⟩
  | cons line rest =>
    have hread := balance_answered (isQuestion_question message default) line rest shown
    unfold input
    simp only
    split <;> exact ⟨Nat.le_succ _, Nat.le_succ_of_le (Nat.le_of_eq hread)⟩

/-- each line that is read is asked for once -/
theorem selectFrom_ok {lines : List Bytes} {shown : List Shown} {choice : Nat}
    (h : selectFrom message choices preset lines shown = (.ok choice, t')) :
    t'.lines.length < lines.length ∧ t'.balance = (⟨lines, shown⟩ : Terminal).balance := by
  induction lines generalizing shown with
  | nil => cases h
  | cons line rest ih =>
    have hread := balance_answered (isQuestion_menu message choices preset) line rest shown
    rw [selectFrom] at h
    split at h
    · obtain ⟨-, rfl⟩ := Prod.mk.inj h
      exact ⟨Nat.lt_succ_self _, hread⟩
    · obtain ⟨hlines, hbalance⟩ := ih h
      rw [balance_told not_isQuestion_complaint] at hbalance
      exact ⟨Nat.lt_succ_of_lt hlines, hbalance.trans hread⟩

theorem selectFrom_le (message : String) (choices : List String) (preset : Nat) (lines : List Bytes)
    (shown : List Shown) :
    (selectFrom message choices preset lines shown).2.lines.length ≤ lines.length ∧
      (selectFrom message choices preset lines shown).2.balance ≤
        (⟨lines, shown⟩ : Terminal).balance + 1 := by
  induction lines generalizing shown with
  | nil =>
    exact ⟨Nat.le_refl _, Nat.le_of_eq (balance_unanswered (isQuestion_menu message choices preset) _)⟩
  | cons line rest ih =>
    have hread := balance_answered (isQuestion_menu message choices preset) line rest shown
    rw [selectFrom]
    split
    · exact ⟨Nat.le_succ _, Nat.le_succ_of_le (Nat.le_of_eq hread)⟩
    · obtain ⟨hlines, hbalance⟩ := ih (shown ++ [.menu message choices preset] ++ [.complaint])
      rw [balance_told not_isQuestion_complaint, hread] at hbalance
      exact ⟨Nat.le_succ_of_le hlines, hbalance⟩

end

/-! ### requests at a terminal -/

abbrev surroundings {σ φ : Type} (storage : Storage σ) (fetcher : Fetcher φ) :
    Surroundings Terminal σ φ := ⟨prompter, storage, fetcher⟩

section
variable {σ φ : Type} {storage : Storage σ} {fetcher : Fetcher φ} {r : Request}
  {w : World Terminal σ φ}

/-- an answer takes at least one line -/
theorem reply_ok {answer : r.Answer} (hr : r.asks)
    (h : ((surroundings storage fetcher).reply w r).1 = .ok answer) :
    ((surroundings storage fetcher).reply w r).2.user.lines.length < w.user.lines.length ∧
      ((surroundings storage fetcher).reply w r).2.user.balance = w.user.balance := by
  cases r with
  | input message default => exact input_ok (Prod.ext h rfl)
  | select message choices preset => exact selectFrom_ok (Prod.ext h rfl)
  | _ => cases hr

theorem reply_tells (storage : Storage σ) (fetcher : Fetcher φ) (w : World Terminal σ φ)
    (hr : ¬ r.asks) :
    ((surroundings storage fetcher).reply w r).2.user.lines = w.user.lines ∧
      ((surroundings storage fetcher).reply w r).2.user.balance = w.user.balance := by
  cases r with
  | input message default => exact absurd rfl hr
  | select message choices preset => exact absurd rfl hr
  | say text => exact ⟨rfl, balance_told (not_isQuestion_note text) _ _⟩
  | _ => exact ⟨rfl, rfl⟩

theorem reply_le (storage : Storage σ) (fetcher : Fetcher φ) (r : Request) (w : World Terminal σ φ) :
    ((surroundings storage fetcher).reply w r).2.user.lines.length ≤ w.user.lines.length ∧
      ((surroundings storage fetcher).reply w r).2.user.balance ≤ w.user.balance + 1 := by
  by_cases hr : r.asks
  · cases r with
    | input message default => exact input_le message default w.user
    | select message choices preset => exact selectFrom_le message choices preset _ _
    | _ => cases hr
  · obtain ⟨hlines, hbalance⟩ := reply_tells storage fetcher w hr
    exact ⟨Nat.le_of_eq (congrArg List.length hlines), Nat.le_succ_of_le (Nat.le_of_eq hbalance)⟩

end

end Terminal

end ServiceDiagram
