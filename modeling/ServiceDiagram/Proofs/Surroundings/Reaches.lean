import ServiceDiagram.Surroundings.World

/-!
# What an activity comes by

`Reaches s request resume step w step' w'` says that an activity that stands at `step` in the world
`w` comes to stand at `step'` in `w'`, by any number of requests.  A run is one that comes to an end
(`reaches_of_run`); what holds at every place on the way is shown by induction on the way.  -/

namespace ServiceDiagram.Surroundings

variable {π σ φ α β : Type}

/-- **The places that an activity comes by**, with the world that it finds there -/
inductive Reaches (s : Surroundings π σ φ) (request : α → Request)
    (resume : (state : α) → (request state).Reply → Step α β) (step : Step α β) (w : World π σ φ) :
    Step α β → World π σ φ → Prop
  | here : Reaches s request resume step w step w
  | reply {state w'} (h : Reaches s request resume step w (.next state) w') :
      Reaches s request resume step w (resume state (s.reply w' (request state)).1)
        (s.reply w' (request state)).2

def WriteFails (s : Surroundings π σ φ) (w : World π σ φ) (r : Request) : Prop :=
  ∃ name content fault, r = .write name content ∧
    (s.storage.write name content w.files).1 = .error fault

variable {s : Surroundings π σ φ} {request : α → Request}
  {resume : (state : α) → (request state).Reply → Step α β} {step step' step'' : Step α β}
  {w w' w'' : World π σ φ}

theorem Reaches.trans (h : Reaches s request resume step w step' w')
    (h' : Reaches s request resume step' w' step'' w'') :
    Reaches s request resume step w step'' w'' := by
  induction h' with
  | here => exact h
  | reply _ ih => exact ih.reply

theorem Reaches.first (state : α) (w : World π σ φ) :
    Reaches s request resume (.next state) w (resume state (s.reply w (request state)).1)
      (s.reply w (request state)).2 :=
  Reaches.here.reply

theorem Reaches.next_cases {state : α} (h : Reaches s request resume (.next state) w step' w') :
    (step' = .next state ∧ w' = w) ∨
      Reaches s request resume (resume state (s.reply w (request state)).1)
        (s.reply w (request state)).2 step' w' := by
  induction h with
  | here => exact Or.inl ⟨rfl, rfl⟩
  | reply _ ih =>
    rcases ih with ⟨he, rfl⟩ | hr
    · cases he
      exact Or.inr .here
    · exact Or.inr hr.reply

theorem Reaches.done_eq {result : β} (h : Reaches s request resume (.done result) w step' w') :
    step' = .done result ∧ w' = w := by
  induction h with
  | here => exact ⟨rfl, rfl⟩
  | reply _ ih => cases ih.1

/-- **A run comes to its end.** -/
theorem reaches_of_run {fuel : Nat} {result : β}
    (h : s.run request resume fuel step w = some (result, w')) :
    Reaches s request resume step w (.done result) w' := by
  induction fuel generalizing step w with
  | zero =>
    cases step with
    | next state => cases h
    | done r =>
      cases h
      exact .here
  | succ fuel ih =>
    cases step with
    | next state => exact (Reaches.first state w).trans (ih h)
    | done r =>
      cases h
      exact .here

/-! ### what a request changes -/

theorem write_ok {r : Request} {name : String} {content : Bytes} (hr : r = .write name content)
    (h : ¬ s.WriteFails w r) : (s.storage.write name content w.files).1 = .ok () := by
  cases hw : (s.storage.write name content w.files).1 with
  | ok u => rfl
  | error fault => exact absurd ⟨name, content, fault, hr, hw⟩ h

theorem files_write {r : Request} {name : String} {content : Bytes} (hr : r = .write name content) :
    (s.reply w r).2.files = (s.storage.write name content w.files).2 := by
  subst hr
  rfl

end ServiceDiagram.Surroundings
