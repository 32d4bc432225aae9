import ServiceDiagram.Generation.Run
import ServiceDiagram.Proofs.Generation.Steps
import ServiceDiagram.Proofs.Surroundings.Makes
import ServiceDiagram.Proofs.Surroundings.Questions

/-!
# Every run at a terminal ends

Nothing in a run counts its turns or the choices in them; it is the lines of the input that run out.
Every question that is answered takes a line, and a run makes few requests from one question to the
next: `Phase.budget` bounds those that it makes before it has to ask again, and three times the lines
that are left cover the rest (`left_resume_lt`).  A question without an answer ends the run, so there is
at most one question more than there are lines.
-/

namespace ServiceDiagram

namespace Session

/-- a bound on the requests from a point to the next answer, and behind it to the end of a run -/
def Point.budget : Point → Nat
  | .recovery => 5
  | .help | .listing | .noServices | .saveNew | .noTarget _ | .saveEdit _ => 6
  | _ => 4

theorem Point.budget_le (p : Point) : p.budget ≤ 6 := by
  unfold budget
  split <;> decide

theorem Point.le_budget (p : Point) : 4 ≤ p.budget := by
  unfold budget
  split <;> decide

end Session

namespace Generation

def Phase.budget : Phase → Nat
  | .loading _ => 6
  | .welcome => 5
  | .naming | .framework _ => 4
  | .storing _ => 5
  | .editing turn => turn.point.budget
  | .drawing _ => 4
  | .keeping _ => 3
  | .fetching _ => 2
  | .picturing _ _ => 1

/-- a bound on the requests that are left, if no question is answered -/
def budget : Progress → Nat
  | .next p => p.budget
  | .done _ => 0

variable {s : Settings}

/-! ### one phase after the other -/

theorem budget_afterTurn_le (turn : Step Session.Turn Session.Result) : budget (afterTurn turn) ≤ 6 := by
  rcases afterTurn_cases turn with ⟨t, he⟩ | ⟨c, he⟩ | ⟨fault, he⟩ <;> rw [he]
  · exact t.point.budget_le
  · exact Nat.le_add_right 4 2
  · exact Nat.zero_le 6

theorem budget_proceed_le (e : Editor) : budget (afterTurn (Session.proceed e)) ≤ 5 := by
  obtain ⟨c, state⟩ := e
  cases state <;> exact Nat.le_of_ble_eq_true rfl

theorem budget_returnToMain_le (e : Editor) :
    budget (afterTurn (Session.proceed e.returnToMain)) ≤ 4 := by
  obtain ⟨c, state⟩ := e
  cases state <;> exact Nat.le_of_ble_eq_true rfl

theorem budget_told_lt (file : String) (t : Session.Turn) (h : ¬ (t.request file).asks)
    (answer : (t.request file).Answer) :
    budget (afterTurn (t.resume file (.ok answer))) < t.point.budget := by
  obtain ⟨e, p⟩ := t
  cases p with
  | help => exact Nat.lt_succ_of_le (budget_proceed_le e)
  | recovery => exact Nat.lt_succ_of_le (budget_returnToMain_le e)
  | listing => exact Nat.lt_of_le_of_lt (budget_returnToMain_le e) (Nat.lt_add_of_pos_right Nat.two_pos)
  | noServices => exact Nat.lt_of_le_of_lt (budget_returnToMain_le e) (Nat.lt_add_of_pos_right Nat.two_pos)
  | saveNew => exact Nat.lt_succ_of_le (budget_proceed_le e)
  | noTarget name => exact Nat.lt_add_of_pos_right Nat.two_pos
  | saveEdit name => exact Nat.lt_add_of_pos_right Nat.two_pos
  | _ => exact absurd rfl h

theorem budget_afterLoading_le (s : Settings) (interactive : Bool) (content : Except Fault Bytes) :
    budget (afterLoading s interactive content) ≤ 5 := by
  unfold afterLoading
  split
  · exact Nat.zero_le 5
  · split
    · exact Nat.le_add_right 4 1
    · exact Nat.le_add_right 4 1
  · split
    · exact Nat.le_refl 5
    · exact Nat.zero_le 5

/-- after an answer there is less left to do, but for the answer to a question -/
theorem budget_ok_lt (p : Phase) (answer : (p.request s).Answer) :
    budget (p.resume s (.ok answer)) < p.budget + if (p.request s).asks then 3 else 0 := by
  cases p with
  | loading interactive => exact Nat.lt_succ_of_le (budget_afterLoading_le s interactive (.ok answer))
  | welcome => exact Nat.lt_succ_self 4
  | naming => exact Nat.lt_add_of_pos_right (Nat.succ_pos 2)
  | framework name => exact Nat.lt_add_of_pos_right Nat.two_pos
  | storing c => exact Nat.lt_succ_self 4
  | editing t =>
    show budget (afterTurn (t.resume s.dataFile (.ok answer))) < _
    split
    · have hle := budget_afterTurn_le (t.resume s.dataFile (.ok answer))
      have hpoint := t.point.le_budget
      show _ < t.point.budget + 3
      omega
    · next h => exact budget_told_lt s.dataFile t h answer
  | drawing c => exact Nat.lt_succ_self 3
  | keeping c =>
    rw [resume_keeping]
    split
    · exact Nat.lt_succ_self 2
    · exact Nat.succ_pos 2
  | fetching c => exact Nat.lt_succ_self 1
  | picturing c image => exact Nat.lt_succ_self 0

theorem Phase.budget_pos (p : Phase) : 0 < p.budget := by
  cases p with
  | editing t => exact Nat.lt_of_lt_of_le (by decide) t.point.le_budget
  | _ => exact Nat.succ_pos _

theorem budget_error_lt (p : Phase) (fault : Fault) :
    budget (p.resume s (.error fault)) < p.budget := by
  rcases resume_error p fault with ⟨interactive, rfl⟩ | he
  · exact Nat.lt_succ_of_le (budget_afterLoading_le s interactive (.error fault))
  · rw [he]
    exact p.budget_pos

/-! ### runs -/

section
variable {σ φ : Type} {storage : Storage σ} {fetcher : Fetcher φ} {w w₀ w' : World Terminal σ φ}
  {step step' : Progress}

def left (step : Progress) (w : World Terminal σ φ) : Nat := 3 * w.user.lines.length + budget step

/-- **Every request leaves less to do.** -/
theorem left_resume_lt (storage : Storage σ) (fetcher : Fetcher φ) (s : Settings) (p : Phase)
    (w : World Terminal σ φ) :
    let out := (Terminal.surroundings storage fetcher).reply w (p.request s)
    left (p.resume s out.1) out.2 < left (.next p) w := by
  intro out
  have hlines : out.2.user.lines.length ≤ w.user.lines.length :=
    (Terminal.reply_le storage fetcher (p.request s) w).1
  show 3 * out.2.user.lines.length + _ < 3 * w.user.lines.length + p.budget
  cases hreply : out.1 with
  | error fault =>
    have hbudget := budget_error_lt (s := s) p fault
    omega
  | ok answer =>
    have hbudget := budget_ok_lt p answer
    by_cases hasks : (p.request s).asks
    · rw [if_pos hasks] at hbudget
      have htaken : out.2.user.lines.length < w.user.lines.length :=
        (Terminal.reply_ok hasks hreply).1
      omega
    · rw [if_neg hasks] at hbudget
      omega

theorem run_of_left_le (storage : Storage σ) (fetcher : Fetcher φ) (s : Settings) {fuel : Nat}
    {step : Progress} {w : World Terminal σ φ} (h : left step w ≤ fuel) :
    ∃ result w', (Terminal.surroundings storage fetcher).run (Phase.request s) (Phase.resume s) fuel
      step w = some (result, w') := by
  induction fuel generalizing step w with
  | zero =>
    cases step with
    | next p =>
      have hpos := p.budget_pos
      have hzero : 3 * w.user.lines.length + p.budget ≤ 0 := h
      omega
    | done result => exact ⟨result, w, rfl⟩
  | succ fuel ih =>
    cases step with
    | next p =>
      rw [Surroundings.run_next]
      exact ih (Nat.le_of_lt_succ (Nat.lt_of_lt_of_le (left_resume_lt storage fetcher s p w) h))
    | done result => exact ⟨result, w, rfl⟩

/-- where a run stands, the questions that were asked are made up for by lines -/
def Asked (lines : Nat) (step : Progress) (w : World Terminal σ φ) : Prop :=
  match step with
  | .next _ => w.user.balance = lines
  | .done _ => w.user.balance ≤ lines + 1

theorem asked_of_eq {lines : Nat} (h : w.user.balance = lines) : Asked lines step w := by
  cases step with
  | next p => exact h
  | done result => exact Nat.le_succ_of_le (Nat.le_of_eq h)

/-- one request keeps the count: a question is answered by a line, or the run is over -/
theorem Asked.reply {lines : Nat} {p : Phase} (h : Asked lines (.next p) w) :
    let out := (Terminal.surroundings storage fetcher).reply w (p.request s)
    Asked lines (p.resume s out.1) out.2 := by
  intro out
  have hw : w.user.balance = lines := h
  have hle := (Terminal.reply_le storage fetcher (p.request s) w).2
  by_cases hasks : (p.request s).asks
  · cases hreply : out.1 with
    | ok answer => exact asked_of_eq ((Terminal.reply_ok hasks hreply).2.trans hw)
    | error fault =>
      rcases resume_error (s := s) p fault with ⟨interactive, rfl⟩ | he
      · cases hasks
      · rw [he]
        exact hw ▸ hle
  · exact asked_of_eq ((Terminal.reply_tells storage fetcher w hasks).2.trans hw)

theorem asked_of_reaches {lines : Nat} (h : Asked lines step w)
    (hr : (Terminal.surroundings storage fetcher).Reaches (Phase.request s) (Phase.resume s) step w
      step' w') : Asked lines step' w' := by
  induction hr with
  | here => exact h
  | reply _ ih => exact ih.reply

/-- **Every run at a terminal ends**, whatever the input, the files and the server are, and asks no
more than one question for each line and one more. -/
theorem run_ends (storage : Storage σ) (fetcher : Fetcher φ) (s : Settings) (input : Bytes)
    (files : σ) (server : φ) :
    let t := Terminal.new input
    ∃ result w, (∀ extra, run? (Terminal.surroundings storage fetcher) s true (t.fuel + extra)
        ⟨t, files, server⟩ = some (result, w)) ∧
      w.user.questions ≤ Terminal.lineCount input + 1 := by
  intro t
  let start : World Terminal σ φ := ⟨t, files, server⟩
  have hleft : left (.next (.loading true)) start ≤ t.fuel := Nat.add_le_add_left (by decide) _
  obtain ⟨result, w, hrun⟩ := run_of_left_le storage fetcher s hleft
  refine ⟨result, w, Surroundings.run_add hrun, ?_⟩
  have hstart : Asked (Terminal.lineCount input) (.next (.loading true)) start :=
    asked_of_eq (Terminal.balance_new input)
  have hend := asked_of_reaches hstart (Surroundings.reaches_of_run hrun)
  exact Nat.le_trans (Nat.le_add_right ..) hend

end

end Generation

end ServiceDiagram
