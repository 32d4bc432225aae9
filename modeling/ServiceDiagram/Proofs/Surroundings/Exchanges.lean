import ServiceDiagram.Proofs.Surroundings.Makes

/-!
# Requests and their replies

`Exchanges` is `Makes` with what came back for each request.  `Talks step w holds` says what comes of an
activity as long as it speaks to the user only: it comes to a place where `holds` is true of all that
was said, and of where it stands.  It is shown from the end backwards, one question after the other
(`Talks.asks`).
-/

namespace ServiceDiagram

structure Exchange where
  request : Request
  reply : request.Reply

namespace Exchange

def Answered (x : Exchange) : Prop := ∃ answer, x.reply = .ok answer

def typed (message default answer : String) : Exchange := ⟨.input message default, .ok answer⟩

def chosen (message : String) (choices : List String) (default choice : Nat) : Exchange :=
  ⟨.select message choices default, .ok choice⟩

def said (text : String) : Exchange := ⟨.say text, .ok ()⟩

def failed (r : Request) (fault : Fault) : Exchange := ⟨r, .error fault⟩

theorem answered_typed (message default answer : String) : (typed message default answer).Answered :=
  ⟨answer, rfl⟩

theorem answered_chosen (message : String) (choices : List String) (default choice : Nat) :
    (chosen message choices default choice).Answered :=
  ⟨choice, rfl⟩

end Exchange

namespace Surroundings

variable {π σ φ α β : Type}

/-- **The requests that lead from one place to another, and their replies**, in order -/
inductive Exchanges (s : Surroundings π σ φ) (request : α → Request)
    (resume : (state : α) → (request state).Reply → Step α β) :
    Step α β → World π σ φ → List Exchange → Step α β → World π σ φ → Prop
  | none (step : Step α β) (w : World π σ φ) : Exchanges s request resume step w [] step w
  | reply {state : α} {w : World π σ φ} {xs : List Exchange} {step' : Step α β} {w' : World π σ φ}
      (h : Exchanges s request resume (resume state (s.reply w (request state)).1)
        (s.reply w (request state)).2 xs step' w') :
      Exchanges s request resume (.next state) w
        (⟨request state, (s.reply w (request state)).1⟩ :: xs) step' w'

variable {s : Surroundings π σ φ} {request : α → Request}
  {resume : (state : α) → (request state).Reply → Step α β} {step step' : Step α β}
  {w w' : World π σ φ} {xs : List Exchange} {holds : List Exchange → Step α β → Prop}

/-- **Exchanges are requests that are made**, so all that holds of these holds of them. -/
theorem Exchanges.makes (h : s.Exchanges request resume step w xs step' w') :
    s.Makes request resume step w (xs.map (·.request)) step' w' := by
  induction h with
  | none step w => exact .none
  | reply h ih => exact (Makes.first _ _).trans ih

/-- **What comes of an activity that speaks to the user** -/
def Talks (s : Surroundings π σ φ) (request : α → Request)
    (resume : (state : α) → (request state).Reply → Step α β) (step : Step α β) (w : World π σ φ)
    (holds : List Exchange → Step α β → Prop) : Prop :=
  ∃ xs step' w', s.Exchanges request resume step w xs step' w' ∧ w.Alike w' ∧ holds xs step'

theorem Talks.here (h : holds [] step) : s.Talks request resume step w holds :=
  ⟨[], step, w, .none step w, ⟨rfl, rfl⟩, h⟩

theorem Talks.asks {state : α} (hu : (request state).ofUser = true)
    (hfault : ∀ fault, holds [.failed (request state) fault] (resume state (.error fault)))
    (hanswer : ∀ answer, s.Talks request resume (resume state (.ok answer))
      (s.reply w (request state)).2 fun xs => holds (⟨request state, .ok answer⟩ :: xs)) :
    s.Talks request resume (.next state) w holds := by
  have halike := alike_of_ofUser hu (s := s) w
  cases hreply : (s.reply w (request state)).1 with
  | error fault =>
    refine ⟨_, _, _, .reply (.none _ _), halike, ?_⟩
    rw [hreply]
    exact hfault fault
  | ok answer =>
    obtain ⟨xs, step', w', hrest, hrestAlike, hholds⟩ := hanswer answer
    refine ⟨⟨request state, .ok answer⟩ :: xs, step', w', ?_, halike.trans hrestAlike, hholds⟩
    -- the reply is the answer in the exchange, and in what follows it
    have hexchanges := hreply ▸ Exchanges.reply (s := s) (w := w) (hreply ▸ hrest)
    exact hexchanges

end Surroundings

end ServiceDiagram
