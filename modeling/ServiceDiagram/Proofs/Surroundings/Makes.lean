import ServiceDiagram.Proofs.Surroundings.Reaches

/-!
# What an activity asks for

`Makes s request resume step w rs step' w'` says that an activity that stands at `step` in the world
`w` makes the requests `rs`, one after the other, and then stands at `step'` in `w'`.  As many requests
are what `run` needs to come there (`Makes.run_eq`).

* `Request.ofUser`   the requests that neither read nor change anything outside the dialogue;
* `World.Alike`      what these requests do not change.
-/

namespace ServiceDiagram

def Request.ofUser : Request → Bool
  | .input _ _ | .select _ _ _ | .say _ => true
  | .read _ | .write _ _ | .fetch _ => false

theorem Request.filter_not_ofUser {rs rs' : List Request} (h : ∀ r ∈ rs, r.ofUser = true)
    (h' : ∀ r ∈ rs', r.ofUser = false) : (rs ++ rs').filter (!·.ofUser) = rs' := by
  have hnone : rs.filter (!·.ofUser) = [] :=
    List.filter_eq_nil_iff.mpr fun r hr => by rw [h r hr]; exact Bool.false_ne_true
  have hall : rs'.filter (!·.ofUser) = rs' :=
    List.filter_eq_self.mpr fun r hr => by rw [h' r hr]; rfl
  rw [List.filter_append, hnone, hall, List.nil_append]

/-- worlds that differ in the user at most -/
structure World.Alike {π σ φ : Type} (w w' : World π σ φ) : Prop where
  files : w.files = w'.files
  server : w.server = w'.server

theorem World.Alike.trans {π σ φ : Type} {w w' w'' : World π σ φ} (h : w.Alike w')
    (h' : w'.Alike w'') : w.Alike w'' :=
  ⟨h.files.trans h'.files, h.server.trans h'.server⟩

theorem World.Alike.symm {π σ φ : Type} {w w' : World π σ φ} (h : w.Alike w') : w'.Alike w :=
  ⟨h.files.symm, h.server.symm⟩

namespace Surroundings

variable {π σ φ α β : Type}

/-- **The requests that lead from one place to another**, in order -/
inductive Makes (s : Surroundings π σ φ) (request : α → Request)
    (resume : (state : α) → (request state).Reply → Step α β) (step : Step α β) (w : World π σ φ) :
    List Request → Step α β → World π σ φ → Prop
  | none : Makes s request resume step w [] step w
  | reply {rs state w'} (h : Makes s request resume step w rs (.next state) w') :
      Makes s request resume step w (rs ++ [request state])
        (resume state (s.reply w' (request state)).1) (s.reply w' (request state)).2

variable {s : Surroundings π σ φ} {request : α → Request}
  {resume : (state : α) → (request state).Reply → Step α β} {step step' step'' : Step α β}
  {w w' w'' w₁ : World π σ φ} {rs rs' : List Request}

theorem Makes.trans (h : Makes s request resume step w rs step' w')
    (h' : Makes s request resume step' w' rs' step'' w'') :
    Makes s request resume step w (rs ++ rs') step'' w'' := by
  induction h' with
  | none =>
    rw [List.append_nil]
    exact h
  | reply _ ih =>
    rw [← List.append_assoc]
    exact ih.reply

theorem Makes.first (state : α) (w : World π σ φ) :
    Makes s request resume (.next state) w [request state]
      (resume state (s.reply w (request state)).1) (s.reply w (request state)).2 :=
  Makes.none.reply

theorem Makes.first_eq {state : α} (hstep : resume state (s.reply w (request state)).1 = step')
    (hw : (s.reply w (request state)).2 = w') :
    Makes s request resume (.next state) w [request state] step' w' := by
  rw [← hstep, ← hw]
  exact .first state w

theorem Makes.next_cases {state : α}
    (h : Makes s request resume (.next state) w rs step' w') :
    (rs = [] ∧ step' = .next state ∧ w' = w) ∨
      ∃ rest, rs = request state :: rest ∧
        Makes s request resume (resume state (s.reply w (request state)).1)
          (s.reply w (request state)).2 rest step' w' := by
  induction h with
  | none => exact Or.inl ⟨rfl, rfl, rfl⟩
  | reply _ ih =>
    rcases ih with ⟨rfl, he, rfl⟩ | ⟨rest, rfl, hrest⟩
    · cases he
      exact Or.inr ⟨[], rfl, .none⟩
    · exact Or.inr ⟨_, List.cons_append, hrest.reply⟩

theorem Makes.last_cases (h : Makes s request resume step w rs step' w') :
    (rs = [] ∧ step' = step ∧ w' = w) ∨
      ∃ made state w₁, rs = made ++ [request state] ∧
        Makes s request resume step w made (.next state) w₁ ∧
        step' = resume state (s.reply w₁ (request state)).1 ∧
        w' = (s.reply w₁ (request state)).2 := by
  cases h with
  | none => exact Or.inl ⟨rfl, rfl, rfl⟩
  | reply h => exact Or.inr ⟨_, _, _, rfl, h, rfl, rfl⟩

theorem Makes.done_eq {result : β} (h : Makes s request resume (.done result) w rs step' w') :
    rs = [] ∧ step' = .done result ∧ w' = w := by
  induction h with
  | none => exact ⟨rfl, rfl, rfl⟩
  | reply _ ih => cases ih.2.1

/-- **An activity comes to one end only**, by the same requests. -/
theorem Makes.unique {result result' : β} (h : Makes s request resume step w rs (.done result) w')
    (h' : Makes s request resume step w rs' (.done result') w'') :
    rs = rs' ∧ result = result' ∧ w' = w'' := by
  induction rs generalizing step w rs' with
  | nil =>
    rcases h.last_cases with ⟨-, rfl, rfl⟩ | ⟨made, state, w₁, hrs, -⟩
    · obtain ⟨rfl, he, rfl⟩ := h'.done_eq
      cases he
      exact ⟨rfl, rfl, rfl⟩
    · exact absurd hrs.symm (List.append_ne_nil_of_right_ne_nil made (List.cons_ne_nil _ _))
  | cons r rs ih =>
    cases step with
    | done first => cases h.done_eq.1
    | next state =>
      rcases h.next_cases with ⟨hrs, -⟩ | ⟨rest, hrs, hrest⟩
      · cases hrs
      · rcases h'.next_cases with ⟨-, he, -⟩ | ⟨rest', rfl, hrest'⟩
        · cases he
        · obtain ⟨rfl, rfl⟩ := List.cons.inj hrs
          obtain ⟨rfl, hresult⟩ := ih hrest hrest'
          exact ⟨rfl, hresult⟩

theorem makes_of_reaches (h : s.Reaches request resume step w step' w') :
    ∃ rs, Makes s request resume step w rs step' w' := by
  induction h with
  | here => exact ⟨[], .none⟩
  | reply _ ih =>
    obtain ⟨rs, hrs⟩ := ih
    exact ⟨_, hrs.reply⟩

/-! ### requests outside the dialogue -/

theorem alike_of_ofUser {r : Request} (h : r.ofUser = true) (w : World π σ φ) :
    w.Alike (s.reply w r).2 := by
  cases r with
  | input message default => exact ⟨rfl, rfl⟩
  | select message choices default => exact ⟨rfl, rfl⟩
  | say text => exact ⟨rfl, rfl⟩
  | _ => cases h

/-- outside the dialogue the user does not matter -/
theorem reply_of_alike {r : Request} (h : r.ofUser = false) (hw : w.Alike w') :
    (s.reply w r).1 = (s.reply w' r).1 ∧ (s.reply w r).2.Alike (s.reply w' r).2 := by
  obtain ⟨user, files, server⟩ := w
  obtain ⟨user', files', server'⟩ := w'
  obtain ⟨hfiles, hserver⟩ := hw
  cases hfiles
  cases hserver
  cases r with
  | read name => exact ⟨rfl, rfl, rfl⟩
  | write name content => exact ⟨rfl, rfl, rfl⟩
  | fetch url => exact ⟨rfl, rfl, rfl⟩
  | _ => cases h

/-- **What is asked outside the dialogue is answered alike** in worlds that differ in the user only. -/
theorem Makes.of_alike (h : Makes s request resume step w rs step' w₁)
    (hrs : ∀ r ∈ rs, r.ofUser = false) (hw : w.Alike w') :
    ∃ w₁', Makes s request resume step w' rs step' w₁' ∧ w₁.Alike w₁' := by
  induction h with
  | none => exact ⟨w', .none, hw⟩
  | @reply rs state w₂ _ ih =>
    rw [List.forall_mem_append, List.forall_mem_singleton] at hrs
    obtain ⟨w₂', hmakes, halike⟩ := ih hrs.1
    obtain ⟨hreply, halike'⟩ := reply_of_alike (s := s) hrs.2 halike
    rw [hreply]
    exact ⟨_, hmakes.reply, halike'⟩

/-! ### requests and fuel -/

theorem run_next (s : Surroundings π σ φ) (request : α → Request)
    (resume : (state : α) → (request state).Reply → Step α β) (fuel : Nat) (state : α)
    (w : World π σ φ) :
    s.run request resume (fuel + 1) (.next state) w =
      s.run request resume fuel (resume state (s.reply w (request state)).1)
        (s.reply w (request state)).2 := rfl

theorem run_done (s : Surroundings π σ φ) (request : α → Request)
    (resume : (state : α) → (request state).Reply → Step α β) (fuel : Nat) (result : β)
    (w : World π σ φ) : s.run request resume fuel (.done result) w = some (result, w) := by
  cases fuel <;> rfl

theorem Makes.run_eq (h : Makes s request resume step w rs step' w') (fuel : Nat) :
    s.run request resume (rs.length + fuel) step w = s.run request resume fuel step' w' := by
  induction h generalizing fuel with
  | none => rw [List.length_nil, Nat.zero_add]
  | @reply rs state w' _ ih =>
    rw [List.length_append, List.length_singleton, Nat.add_assoc, ih, Nat.add_comm, run_next]

/-- **A run that makes these requests comes to its end**, with fuel for each of them or more. -/
theorem Makes.run_done {result : β} (h : Makes s request resume step w rs (.done result) w')
    (extra : Nat) : s.run request resume (rs.length + extra) step w = some (result, w') :=
  (h.run_eq extra).trans (Surroundings.run_done ..)

theorem run_add {fuel : Nat} {result : β} (h : s.run request resume fuel step w = some (result, w'))
    (extra : Nat) : s.run request resume (fuel + extra) step w = some (result, w') := by
  induction fuel generalizing step w with
  | zero =>
    cases step with
    | next state => cases h
    | done r => rw [run_done, ← h]; rfl
  | succ fuel ih =>
    cases step with
    | next state =>
      rw [Nat.add_right_comm, run_next]
      exact ih h
    | done r => rw [run_done, ← h]; rfl

theorem Reaches.last_cases (h : s.Reaches request resume step w step' w') :
    (step' = step ∧ w' = w) ∨
      ∃ state w₁, s.Reaches request resume step w (.next state) w₁ ∧
        step' = resume state (s.reply w₁ (request state)).1 ∧
        w' = (s.reply w₁ (request state)).2 := by
  cases h with
  | here => exact Or.inl ⟨rfl, rfl⟩
  | reply h => exact Or.inr ⟨_, _, h, rfl, rfl⟩

end Surroundings

end ServiceDiagram
