import ServiceDiagram.Generation.Phase
import ServiceDiagram.Proofs.Session.Steps

/-!
# What a reply can do to the context of a run

A run starts without a context.  Once it has one, every reply leads to the same context or to one
edit of it (`resume_works`), or ends the run.

* `Phase.Starts p`   the phase comes before there is a context;
* `Phase.Has p c`    the phase works with the context `c`;
* `Works P step`     where the run stands, it has a context with the property `P`.
-/

namespace ServiceDiagram.Generation

inductive Phase.Starts : Phase → Prop
  | loading (interactive) : Starts (.loading interactive)
  | welcome : Starts .welcome
  | naming : Starts .naming
  | framework (name) : Starts (.framework name)

/-- the context that a phase works with -/
inductive Phase.Has : Phase → Context → Prop
  | storing (c) : Has (.storing c) c
  | editing {t : Session.Turn} (ho : t.point.Offered) : Has (.editing t) t.editor.context
  | drawing (c) : Has (.drawing c) c
  | keeping (c) : Has (.keeping c) c
  | fetching (c) : Has (.fetching c) c
  | picturing (c image) : Has (.picturing c image) c

/-- the run is over, or works with a context that has a property -/
inductive Works (P : Context → Prop) : Progress → Prop
  | ends (result) : Works P (.done result)
  | next {p d} (hp : p.Has d) (hd : P d) : Works P (.next p)

variable {s : Settings} {p : Phase} {c d : Context} {step : Progress} {P Q : Context → Prop}

theorem Works.mono (h : ∀ d, P d → Q d) (hw : Works P step) : Works Q step := by
  cases hw with
  | ends result => exact .ends result
  | next hp hd => exact .next hp (h _ hd)

/-! ### one phase after the other -/

theorem resume_keeping (c : Context) (answer : ((Phase.keeping c).request s).Answer) :
    (Phase.keeping c).resume s (.ok answer) =
      if s.download then .next (.fetching c) else .done (.ok (output s c)) := rfl

/-- **What a step of the session leads to**: the turn goes on, or another one begins, or the diagram
is next, or the run failed. -/
inductive Follows : Step Session.Turn Session.Result → Progress → Prop
  | goesOn (t) : Follows (.next t) (.next (.editing t))
  | again {e t} (h : Session.start e = .next t) :
      Follows (.done ⟨e, .ok .proceed⟩) (.next (.editing t))
  | draws (e flow) : Follows (.done ⟨e, .ok flow⟩) (.next (.drawing e.context))
  | fails (e fault) : Follows (.done ⟨e, .error fault⟩) (.done (.error fault))

theorem follows_afterTurn (turn : Step Session.Turn Session.Result) :
    Follows turn (afterTurn turn) := by
  unfold afterTurn
  split
  · next t => exact .goesOn t
  · next e fault => exact .fails e fault
  · next e => exact .draws e .exit
  · next e =>
    have hstays := Session.start_stays e
    split
    · next t ht => exact .again ht
    · next result hr =>
      -- a session that is over leaves the context that it had
      rw [hr] at hstays
      cases hstays with
      | ends he =>
        rw [he]
        exact .draws e .proceed

theorem afterTurn_cases (turn : Step Session.Turn Session.Result) :
    (∃ t, afterTurn turn = .next (.editing t)) ∨ (∃ c, afterTurn turn = .next (.drawing c)) ∨
      ∃ fault, afterTurn turn = .done (.error fault) := by
  have hfollows := follows_afterTurn turn
  generalize afterTurn turn = step at hfollows ⊢
  cases hfollows with
  | goesOn t => exact Or.inl ⟨t, rfl⟩
  | again _ => exact Or.inl ⟨_, rfl⟩
  | draws e flow => exact Or.inr (Or.inl ⟨e.context, rfl⟩)
  | fails e fault => exact Or.inr (Or.inr ⟨fault, rfl⟩)

theorem editing_works {t : Session.Turn} (h : Session.Leads c (.next t)) :
    Works c.Edit (.next (.editing t)) := by
  refine .next (.editing h.offered) ?_
  cases h with
  | asks he =>
    rw [he]
    exact .same
  | saves he => exact he

theorem Follows.works {turn : Step Session.Turn Session.Result} (h : Follows turn step)
    (hturn : Session.Leads c turn) : Works c.Edit step := by
  cases h with
  | goesOn t => exact editing_works hturn
  | again hs =>
    cases hturn with
    | ends he => exact editing_works (he ▸ hs ▸ Session.start_leads _)
  | draws e flow =>
    cases hturn with
    | ends he => exact .next (.drawing _) (he ▸ .same)
  | fails e fault => exact .ends _

theorem afterTurn_works {turn : Step Session.Turn Session.Result} (h : Session.Leads c turn) :
    Works c.Edit (afterTurn turn) := (follows_afterTurn turn).works h

theorem edit_works (c : Context) : Works c.Edit (edit c) :=
  afterTurn_works (Session.start_leads (.new c))

/-- **Whatever the reply, the context changes by one edit at most.** -/
theorem resume_works (hp : p.Has c) (reply : (p.request s).Reply) :
    Works c.Edit (p.resume s reply) := by
  cases reply with
  | error fault =>
    cases hp with
    | editing ho => exact afterTurn_works (Session.resume_leads s.dataFile _ ho (.error fault))
    | _ => exact .ends _
  | ok answer =>
    cases hp with
    | storing => exact edit_works c
    | editing ho => exact afterTurn_works (Session.resume_leads s.dataFile _ ho (.ok answer))
    | drawing => exact .next (.keeping c) .same
    | keeping =>
      rw [resume_keeping]
      split
      · exact .next (.fetching c) .same
      · exact .ends _
    | fetching => exact .next (.picturing c answer) .same
    | picturing => exact .ends _

/-! ### the first phase -/

theorem afterLoading_error {content : Except Fault Bytes} {fault : Fault}
    (h : Store.loaded content = .error fault) (interactive : Bool) :
    afterLoading s interactive content = .done (.error fault) := by
  unfold afterLoading
  rw [h]

theorem afterLoading_none {content : Except Fault Bytes} (h : Store.loaded content = .ok none) :
    afterLoading s true content = .next .welcome := by
  unfold afterLoading
  rw [h]
  rfl

theorem afterLoading_some {content : Except Fault Bytes} (h : Store.loaded content = .ok (some c))
    (interactive : Bool) :
    afterLoading s interactive content = if interactive then edit c else .next (.drawing c) := by
  unfold afterLoading
  rw [h]

/-! ### faults -/

theorem resume_editing (s : Settings) (t : Session.Turn) (reply : (t.request s.dataFile).Reply) :
    (Phase.editing t).resume s reply = afterTurn (t.resume s.dataFile reply) := by
  cases reply <;> rfl

theorem resume_loading (s : Settings) (interactive : Bool) (content : Except Fault Bytes) :
    (Phase.loading interactive).resume s content = afterLoading s interactive content := by
  cases content <;> rfl

/-- only the first phase goes on after a fault -/
theorem resume_error (p : Phase) (fault : Fault) :
    (∃ interactive, p = .loading interactive) ∨
      p.resume s (.error fault) = .done (.error fault) := by
  cases p with
  | loading interactive => exact Or.inl ⟨interactive, rfl⟩
  | _ => exact Or.inr rfl

/-! ### the end -/

theorem afterTurn_ne_ok (turn : Step Session.Turn Session.Result) (o : Output) :
    afterTurn turn ≠ .done (.ok o) := by
  rcases afterTurn_cases turn with ⟨t, he⟩ | ⟨c, he⟩ | ⟨fault, he⟩ <;> rw [he] <;> nofun

theorem afterLoading_ne_ok (interactive : Bool) (content : Except Fault Bytes) (o : Output) :
    afterLoading s interactive content ≠ .done (.ok o) := by
  unfold afterLoading
  split
  · nofun
  · split
    · exact afterTurn_ne_ok _ o
    · nofun
  · split <;> nofun

/-- **A run ends well** behind the document, or behind the drawing if it is to be downloaded. -/
theorem resume_eq_ok {reply : (p.request s).Reply} {o : Output}
    (h : p.resume s reply = .done (.ok o)) :
    (∃ answer, reply = .ok answer) ∧ ∃ c, o = output s c ∧
      ((p = .keeping c ∧ s.download = false) ∨ ∃ image, p = .picturing c image) := by
  cases reply with
  | error fault =>
    rcases resume_error p fault with ⟨interactive, rfl⟩ | he
    · exact absurd h (afterLoading_ne_ok interactive (.error fault) o)
    · rw [he] at h
      cases h
  | ok answer =>
    refine ⟨⟨answer, rfl⟩, ?_⟩
    cases p with
    | loading interactive => exact absurd h (afterLoading_ne_ok interactive (.ok answer) o)
    | storing c => exact absurd h (afterTurn_ne_ok (Session.start (.new c)) o)
    | editing t => exact absurd h (afterTurn_ne_ok (t.resume s.dataFile (.ok answer)) o)
    | keeping c =>
      rw [resume_keeping] at h
      split at h
      · cases h
      · next hd =>
        cases h
        exact ⟨c, rfl, Or.inl ⟨rfl, Bool.eq_false_iff.mpr hd⟩⟩
    | picturing c image =>
      cases h
      exact ⟨c, rfl, Or.inr ⟨image, rfl⟩⟩
    | _ => cases h

end ServiceDiagram.Generation
