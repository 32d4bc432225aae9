import ServiceDiagram.Proofs.Model.Edits
import ServiceDiagram.Session.Turn

/-!
# What an answer can do to the context

Between two requests of a turn the context changes by one edit at most, and if it may have changed,
the next point saves it (`resume_leads`).  A turn begins, and ends, with the context that it has.
-/

namespace ServiceDiagram

/-! ### the editor -/

namespace Editor

theorem context_returnToMain (e : Editor) : e.returnToMain.context = e.context := by
  unfold returnToMain
  split <;> rfl

theorem context_step (e : Editor) (entry : MenuEntry) : (e.step entry).context = e.context := by
  unfold step
  split
  · rfl
  · cases entry <;> rfl

theorem edit_addService (e : Editor) (name : String) :
    e.context.Edit (e.addService name).2.context := by
  unfold addService
  split
  · next c hc =>
    rw [context_returnToMain]
    exact .service name hc
  · rw [context_returnToMain]
    exact .same

theorem edit_cases (e : Editor) (name : String) (f : Service → Service) :
    (∃ c, e.context.change? name f = some c ∧ e.edit name f = (true, { e with context := c })) ∨
      e.edit name f = (false, e) := by
  unfold edit
  split
  · next c hc => exact Or.inl ⟨c, hc, rfl⟩
  · exact Or.inr rfl

theorem state_edit (e : Editor) (name : String) (f : Service → Service) :
    (e.edit name f).2.state = e.state := by
  rcases e.edit_cases name f with ⟨c, -, he⟩ | he <;> rw [he]

end Editor

namespace Session

def Point.Saves : Point → Prop
  | .saveNew => True
  | .saveEdit _ => True
  | _ => False

/-- a point with an association that is not finished has one of the kinds that are offered -/
def Point.Offered : Point → Prop
  | .target _ k => k ∈ AssociationKind.known
  | .label _ a => a.kind ∈ AssociationKind.known
  | .localEnd _ a => a.kind ∈ AssociationKind.known
  | .remoteEnd _ a _ => a.kind ∈ AssociationKind.known
  | _ => True

theorem request_saves {t : Turn} (file : String) (h : t.point.Saves) :
    t.request file = .write file (Document.write t.editor.context) := by
  obtain ⟨e, p⟩ := t
  cases p with
  | saveNew => rfl
  | saveEdit name => rfl
  | _ => exact absurd h not_false

/-- a point that saves nothing, and with no association that is not finished -/
def Point.Idle : Point → Prop
  | .saveNew | .saveEdit _ => False
  | .target _ _ | .label _ _ | .localEnd _ _ | .remoteEnd _ _ _ => False
  | _ => True

theorem Point.Idle.not_saves {p : Point} (h : p.Idle) : ¬ p.Saves := by
  cases p with
  | saveNew => exact False.elim h
  | saveEdit name => exact False.elim h
  | _ => exact not_false

theorem Point.Idle.offered {p : Point} (h : p.Idle) : p.Offered := by
  cases p with
  | target name kind => exact False.elim h
  | label name a => exact False.elim h
  | localEnd name a => exact False.elim h
  | remoteEnd name a localEnd => exact False.elim h
  | _ => trivial

/-- **What follows without an edit**: the context is as it was, and nothing is under way. -/
inductive Stays (c : Context) : Step Turn Result → Prop
  | ends {r : Result} (h : r.editor.context = c) : Stays c (.done r)
  | asks {t : Turn} (h : t.editor.context = c) (hp : t.point.Idle) : Stays c (.next t)

/-- **What may follow in a context**: the context is still there, or it is after one edit and is
saved at once. -/
inductive Leads (c : Context) : Step Turn Result → Prop
  | ends {r : Result} (h : r.editor.context = c) : Leads c (.done r)
  | asks {t : Turn} (h : t.editor.context = c) (hp : ¬ t.point.Saves) (ho : t.point.Offered) :
      Leads c (.next t)
  | saves {t : Turn} (h : c.Edit t.editor.context) (hp : t.point.Saves) : Leads c (.next t)

theorem Stays.leads {c : Context} {step : Step Turn Result} (h : Stays c step) : Leads c step := by
  cases h with
  | ends h => exact .ends h
  | asks h hp => exact .asks h hp.not_saves hp.offered

/-! ### what follows without an edit -/

variable {e : Editor}

theorem proceed_stays (e : Editor) : Stays e.context (proceed e) := .ends rfl

theorem returnToMain_stays (e : Editor) : Stays e.context (proceed e.returnToMain) :=
  .ends e.context_returnToMain

theorem goTo_stays {p : Point} (hp : p.Idle) : Stays e.context (goTo e p) := .asks rfl hp

theorem start_stays (e : Editor) : Stays e.context (start e) := by
  unfold start
  split
  · exact goTo_stays trivial
  · exact .ends rfl
  · exact goTo_stays trivial

theorem afterMenu_stays (e : Editor) (choice : Nat) : Stays e.context (afterMenu e choice) := by
  unfold afterMenu
  rw [← e.context_step (MenuEntry.all[choice]?.getD .help)]
  simp only
  split
  · exact .ends rfl
  · exact goTo_stays trivial
  · exact goTo_stays trivial
  · exact goTo_stays trivial
  · split
    · exact goTo_stays trivial
    · exact goTo_stays trivial

theorem afterService_stays (e : Editor) (choice : Nat) :
    Stays e.context (afterService e choice) := by
  unfold afterService
  split
  · exact goTo_stays trivial
  · exact returnToMain_stays e

theorem afterAction_stays (e : Editor) (name : String) (choice : Nat) :
    Stays e.context (afterAction e name choice) := by
  unfold afterAction
  split
  · exact goTo_stays trivial
  · exact goTo_stays trivial
  · exact goTo_stays trivial
  · exact returnToMain_stays e

/-! ### what follows an answer -/

theorem goTo_leads {p : Point} (hp : ¬ p.Saves) (ho : p.Offered) : Leads e.context (goTo e p) :=
  .asks rfl hp ho

theorem start_leads (e : Editor) : Leads e.context (start e) := (start_stays e).leads

theorem afterEdit_leads (e : Editor) (name : String) (f : Service → Service)
    (h : ∀ d, e.context.change? name f = some d → e.context.Edit d) :
    Leads e.context (afterEdit name (e.edit name f)) := by
  rcases e.edit_cases name f with ⟨c, hc, he⟩ | he
  · rw [he]
    exact .saves (h c hc) trivial
  · rw [he]
    exact goTo_leads not_false trivial

theorem addAssociation_leads (e : Editor) (name : String) {a : Association}
    (ha : a.kind ∈ AssociationKind.known) :
    Leads e.context (afterEdit name (e.addAssociation name a)) :=
  afterEdit_leads e name _ fun _ h => .association name a ha h

theorem afterAssociationKind_leads (e : Editor) (name : String) (choice : Nat) :
    Leads e.context (afterAssociationKind e name choice) := by
  unfold afterAssociationKind
  split
  · next kind hk => exact goTo_leads not_false (List.mem_of_getElem? hk)
  · exact goTo_leads not_false trivial

theorem afterTarget_leads (e : Editor) (name : String) {kind : AssociationKind}
    (hk : kind ∈ AssociationKind.known) (answer : String) :
    Leads e.context (afterTarget e name kind answer) := by
  unfold afterTarget
  split
  · exact goTo_leads not_false trivial
  · simp only
    split
    · exact goTo_leads not_false hk
    · split
      · exact goTo_leads not_false hk
      · exact addAssociation_leads e name hk

theorem afterLabel_leads (e : Editor) (name : String) {a : Association}
    (ha : a.kind ∈ AssociationKind.known) (answer : String) :
    Leads e.context (afterLabel e name a answer) := by
  unfold afterLabel
  simp only
  split
  · exact goTo_leads not_false ha
  · exact addAssociation_leads e name ha

/-- **An answer makes one edit at most**, and an edit is saved before anything else is asked. -/
theorem afterAnswer_leads (file : String) (e : Editor) (p : Point) (hp : p.Offered)
    (answer : (Turn.request file ⟨e, p⟩).Answer) :
    Leads e.context (afterAnswer file e p answer) := by
  cases p with
  | menu => exact (afterMenu_stays e answer).leads
  | help => exact (proceed_stays e).leads
  | recovery => exact (returnToMain_stays e).leads
  | listing => exact (returnToMain_stays e).leads
  | noServices => exact (returnToMain_stays e).leads
  | newName => exact .saves (e.edit_addService answer) trivial
  | saveNew => exact (proceed_stays e).leads
  | service => exact (afterService_stays e answer).leads
  | action name => exact (afterAction_stays e name answer).leads
  | stereotype name => exact afterEdit_leads e name _ fun _ h => .stereotype name _ h
  | kind name => exact afterEdit_leads e name _ fun _ h => .kind name _ h
  | associationKind name => exact afterAssociationKind_leads e name answer
  | target name kind => exact afterTarget_leads e name hp answer
  | noTarget name => exact goTo_leads not_false trivial
  | label name a => exact afterLabel_leads e name hp answer
  | localEnd name a => exact goTo_leads not_false hp
  | remoteEnd name a localEnd => exact addAssociation_leads e name hp
  | saveEdit name => exact goTo_leads not_false trivial

/-- a reply that is a fault ends the turn with the context as it is -/
theorem resume_leads (file : String) (t : Turn) (ht : t.point.Offered)
    (reply : (t.request file).Reply) : Leads t.editor.context (t.resume file reply) := by
  cases reply with
  | ok answer => exact afterAnswer_leads file t.editor t.point ht answer
  | error fault => exact .ends rfl

theorem Leads.offered {c : Context} {t : Turn} (h : Leads c (.next t)) : t.point.Offered := by
  cases h with
  | asks _ _ ho => exact ho
  | saves _ hp =>
    unfold Point.Offered
    unfold Point.Saves at hp
    split <;> simp_all

end Session

end ServiceDiagram
