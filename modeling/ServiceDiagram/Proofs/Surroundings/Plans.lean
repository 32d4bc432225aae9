import ServiceDiagram.Proofs.Surroundings.Makes

/-!
# Plans

A plan is a list of requests to be made one after the other, until one of them fails.  `CarriesOut`
says what comes of it, and `CarriesOut.stops` that this is the whole plan or its part up to the first
request that fails.  An activity that `FollowsPlan` a plan carries it out (`FollowsPlan.carriesOut`).

* `after w rs`      the world after some requests;
* `Succeeds w rs`   each of these requests is answered.
-/

namespace ServiceDiagram.Surroundings

variable {π σ φ α β : Type}

def after (s : Surroundings π σ φ) (w : World π σ φ) (rs : List Request) : World π σ φ :=
  rs.foldl (fun w r => (s.reply w r).2) w

def Succeeds (s : Surroundings π σ φ) : World π σ φ → List Request → Prop
  | _, [] => True
  | w, r :: rest => (∃ answer, (s.reply w r).1 = .ok answer) ∧ Succeeds s (s.reply w r).2 rest

/-- **A plan is carried out**: up to its end, or to a request that fails. -/
inductive CarriesOut (s : Surroundings π σ φ) :
    World π σ φ → List Request → List Request → Option Fault → World π σ φ → Prop
  | finished (w : World π σ φ) : CarriesOut s w [] [] none w
  | fails {w : World π σ φ} {r : Request} {plan : List Request} {fault : Fault}
      (h : (s.reply w r).1 = .error fault) :
      CarriesOut s w (r :: plan) [r] (some fault) (s.reply w r).2
  | answered {w : World π σ φ} {r : Request} {plan : List Request} {answer : r.Answer}
      {made : List Request} {fault : Option Fault} {w' : World π σ φ}
      (h : (s.reply w r).1 = .ok answer)
      (hrest : CarriesOut s (s.reply w r).2 plan made fault w') :
      CarriesOut s w (r :: plan) (r :: made) fault w'

variable {s : Surroundings π σ φ} {w w' : World π σ φ} {plan made : List Request}
  {fault : Option Fault}

/-! ### the first request that fails -/

theorem CarriesOut.eq_after (h : s.CarriesOut w plan made fault w') : w' = s.after w made := by
  induction h with
  | finished w => rfl
  | fails h => rfl
  | answered h hrest ih => exact ih

theorem CarriesOut.eq_none_iff (h : s.CarriesOut w plan made fault w') :
    fault = none ↔ s.Succeeds w plan := by
  induction h with
  | finished w => exact ⟨fun _ => trivial, fun _ => rfl⟩
  | fails h =>
    refine ⟨nofun, fun hsucceeds => ?_⟩
    obtain ⟨⟨answer, hanswer⟩, -⟩ := hsucceeds
    rw [h] at hanswer
    cases hanswer
  | answered h hrest ih => exact ih.trans ⟨fun hs => ⟨⟨_, h⟩, hs⟩, And.right⟩

/-- **The whole plan is carried out, or its part up to the first request that fails**, and nothing is
asked for behind it. -/
theorem CarriesOut.stops (h : s.CarriesOut w plan made fault w') :
    (fault = none ∧ made = plan) ∨
      ∃ front r back f, plan = front ++ r :: back ∧ made = front ++ [r] ∧ s.Succeeds w front ∧
        (s.reply (s.after w front) r).1 = .error f ∧ fault = some f := by
  induction h with
  | finished w => exact Or.inl ⟨rfl, rfl⟩
  | @fails w r plan f h => exact Or.inr ⟨[], r, plan, f, rfl, rfl, trivial, h, rfl⟩
  | @answered w r plan answer made fault w' h hrest ih =>
    rcases ih with ⟨hnone, rfl⟩ | ⟨front, r', back, f, rfl, rfl, hfront, hfails, hfault⟩
    · exact Or.inl ⟨hnone, rfl⟩
    · exact Or.inr ⟨r :: front, r', back, f, rfl, rfl, ⟨⟨answer, h⟩, hfront⟩, hfails, hfault⟩

theorem CarriesOut.isPrefix (h : s.CarriesOut w plan made fault w') : made <+: plan := by
  rcases h.stops with ⟨-, rfl⟩ | ⟨front, r, back, -, rfl, rfl, -⟩
  · exact List.prefix_refl made
  · exact ⟨back, List.append_assoc front [r] back⟩

theorem CarriesOut.append_cases {rs rs' : List Request}
    (h : s.CarriesOut w (rs ++ rs') made fault w') :
    (fault ≠ none ∧ made <+: rs) ∨
      ∃ made', made = rs ++ made' ∧ s.Succeeds w rs ∧
        s.CarriesOut (s.after w rs) rs' made' fault w' := by
  induction rs generalizing w made with
  | nil => exact Or.inr ⟨made, rfl, trivial, h⟩
  | cons r rs ih =>
    cases h with
    | fails h => exact Or.inl ⟨nofun, rs, rfl⟩
    | answered h hrest =>
      rcases ih hrest with ⟨hfault, hfront⟩ | ⟨made', rfl, hsucceeds, hlater⟩
      · exact Or.inl ⟨hfault, (List.prefix_cons_inj r).mpr hfront⟩
      · exact Or.inr ⟨made', rfl, ⟨⟨_, h⟩, hsucceeds⟩, hlater⟩

/-! ### activities that follow a plan -/

/-- **An activity follows a plan**: each answer leads to the next request of the plan or to the result
at its end, and each fault to an end. -/
inductive FollowsPlan (s : Surroundings π σ φ) (request : α → Request)
    (resume : (state : α) → (request state).Reply → Step α β) (result : β) (fail : Fault → β) :
    Step α β → World π σ φ → List Request → Prop
  | ends (w : World π σ φ) : FollowsPlan s request resume result fail (.done result) w []
  | goesOn {state : α} {w : World π σ φ} {plan : List Request}
      (hfault : ∀ f, resume state (.error f) = .done (fail f))
      (hanswer : ∀ answer, (s.reply w (request state)).1 = .ok answer →
        FollowsPlan s request resume result fail (resume state (.ok answer))
          (s.reply w (request state)).2 plan) :
      FollowsPlan s request resume result fail (.next state) w (request state :: plan)

variable {request : α → Request} {resume : (state : α) → (request state).Reply → Step α β}
  {result : β} {fail : Fault → β} {step : Step α β}

/-- **An activity that follows a plan carries it out**, and ends with its result or the fault. -/
theorem FollowsPlan.carriesOut (h : FollowsPlan s request resume result fail step w plan) :
    ∃ made fault w', s.Makes request resume step w made (.done (fault.elim result fail)) w' ∧
      s.CarriesOut w plan made fault w' := by
  induction h with
  | ends w => exact ⟨[], none, w, .none, .finished w⟩
  | @goesOn state w plan hfault hanswer ih =>
    cases hreply : (s.reply w (request state)).1 with
    | error f =>
      have hresume : resume state (s.reply w (request state)).1 = .done (fail f) := by
        rw [hreply, hfault]
      exact ⟨_, some f, _, .first_eq hresume rfl, .fails hreply⟩
    | ok answer =>
      obtain ⟨made, fault, w', hmakes, hrest⟩ := ih answer hreply
      have hresume : resume state (s.reply w (request state)).1 = resume state (.ok answer) := by
        rw [hreply]
      exact ⟨_, fault, w', (Makes.first_eq hresume rfl).trans hmakes, .answered hreply hrest⟩

end ServiceDiagram.Surroundings
