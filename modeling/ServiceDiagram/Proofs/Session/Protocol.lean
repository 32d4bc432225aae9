import ServiceDiagram.Proofs.Session.Steps
import ServiceDiagram.Proofs.Surroundings.Makes
import ServiceDiagram.Session.Run
import ServiceDiagram.Surroundings.Memory
import ServiceDiagram.Surroundings.Script
import ServiceDiagram.Surroundings.Server

/-!
# The protocol of the menu

Whoever holds a session calls for one turn after the other, also behind a turn that failed.  Each point
of a dialogue belongs to one state of the menu (`Point.In`), and every answer leads to a point of the
state in which the editor is then, or back to the main menu (`afterAnswer_dialogue`).  So a turn that
fails leaves the editor in the state of the request that failed, and no turn closes it but one in which
the exit is chosen (`outcome`).

* `Call`, `Calls`      a turn that was called for, and calls one after the other;
* `Outcome`            what one call can come to;
* `Call.Obeys`         what the protocol says of a call and of those behind it.
-/

namespace ServiceDiagram

namespace Editor

variable {e : Editor}

theorem state_returnToMain (h : e.state ≠ .closed) : e.returnToMain.state = .main := by
  unfold returnToMain
  rw [if_neg h]

theorem returnToMain_eq (h : e.state ≠ .closed) : e.returnToMain = { e with state := .main } := by
  unfold returnToMain
  rw [if_neg h]

theorem state_addService (h : e.state ≠ .closed) (name : String) :
    (e.addService name).2.state = .main := by
  unfold addService
  split
  · next c hc => exact state_returnToMain (e := { e with context := c }) h
  · exact state_returnToMain h

end Editor

namespace Session

/-- **The states in which a turn comes by a point** -/
def Point.In : Point → MenuState → Prop
  | .menu, state | .help, state | .saveNew, state => state = .main
  | .recovery, state => state ≠ .main ∧ state ≠ .closed
  | .listing, state => state = .listing
  | .newName, state => state = .adding
  | _, state => state = .managing

theorem Point.In.ne_closed {p : Point} {state : MenuState} (h : p.In state) : state ≠ .closed := by
  cases p with
  | recovery => exact h.2
  | _ =>
    intro hclosed
    cases h.symm.trans hclosed

/-- where a turn stands behind the choice from the main menu -/
inductive Dialogue : Step Turn Result → Prop
  | asks {t : Turn} (h : t.point.In t.editor.state) (hm : t.point ≠ .menu) : Dialogue (.next t)
  | ends {e : Editor} (h : e.state = .main) : Dialogue (.done ⟨e, .ok .proceed⟩)

variable {e : Editor}

/-! ### what follows in a dialogue -/

theorem returnToMain_dialogue (h : e.state ≠ .closed) : Dialogue (proceed e.returnToMain) :=
  .ends (Editor.state_returnToMain h)

theorem goTo_dialogue {p : Point} (h : p.In e.state) (hm : p ≠ .menu) : Dialogue (goTo e p) :=
  .asks h hm

theorem afterEdit_dialogue (h : e.state = .managing) (name : String) (f : Service → Service) :
    Dialogue (afterEdit name (e.edit name f)) := by
  have hstate : (e.edit name f).2.state = .managing := (e.state_edit name f).trans h
  unfold afterEdit
  split
  · exact goTo_dialogue hstate nofun
  · exact goTo_dialogue hstate nofun

theorem afterService_dialogue (h : e.state = .managing) (choice : Nat) :
    Dialogue (afterService e choice) := by
  unfold afterService
  split
  · exact goTo_dialogue h nofun
  · exact returnToMain_dialogue (by rw [h]; decide)

theorem afterAction_dialogue (h : e.state = .managing) (name : String) (choice : Nat) :
    Dialogue (afterAction e name choice) := by
  unfold afterAction
  split
  · exact goTo_dialogue h nofun
  · exact goTo_dialogue h nofun
  · exact goTo_dialogue h nofun
  · exact returnToMain_dialogue (by rw [h]; decide)

theorem afterAssociationKind_dialogue (h : e.state = .managing) (name : String) (choice : Nat) :
    Dialogue (afterAssociationKind e name choice) := by
  unfold afterAssociationKind
  split
  · exact goTo_dialogue h nofun
  · exact goTo_dialogue h nofun

theorem afterTarget_dialogue (h : e.state = .managing) (name : String) (kind : AssociationKind)
    (answer : String) : Dialogue (afterTarget e name kind answer) := by
  unfold afterTarget
  split
  · exact goTo_dialogue h nofun
  · simp only
    split
    · exact goTo_dialogue h nofun
    · split
      · exact goTo_dialogue h nofun
      · exact afterEdit_dialogue h name _

theorem afterLabel_dialogue (h : e.state = .managing) (name : String) (a : Association)
    (answer : String) : Dialogue (afterLabel e name a answer) := by
  unfold afterLabel
  simp only
  split
  · exact goTo_dialogue h nofun
  · exact afterEdit_dialogue h name _

/-- **An answer leads to a point of the state that the editor is in then**, or back to the menu. -/
theorem afterAnswer_dialogue (file : String) {p : Point} (h : p.In e.state) (hm : p ≠ .menu)
    (answer : (Turn.request file ⟨e, p⟩).Answer) : Dialogue (afterAnswer file e p answer) := by
  have hopen : e.state ≠ .closed := h.ne_closed
  cases p with
  | menu => exact absurd rfl hm
  | help => exact .ends h
  | recovery => exact returnToMain_dialogue hopen
  | listing => exact returnToMain_dialogue hopen
  | noServices => exact returnToMain_dialogue hopen
  | newName => exact goTo_dialogue (Editor.state_addService hopen answer) nofun
  | saveNew => exact .ends h
  | service => exact afterService_dialogue h answer
  | action name => exact afterAction_dialogue h name answer
  | stereotype name => exact afterEdit_dialogue h name _
  | kind name => exact afterEdit_dialogue h name _
  | associationKind name => exact afterAssociationKind_dialogue h name answer
  | target name kind => exact afterTarget_dialogue h name kind answer
  | noTarget name => exact goTo_dialogue h nofun
  | label name a => exact afterLabel_dialogue h name a answer
  | localEnd name a => exact goTo_dialogue h nofun
  | remoteEnd name a localEnd => exact afterEdit_dialogue h name _
  | saveEdit name => exact goTo_dialogue h nofun

theorem afterMenu_cases (h : e.state = .main) (choice : Nat) :
    (MenuEntry.all[choice]? = some .exit ∧
        afterMenu e choice = .done ⟨{ e with state := .closed }, .ok .exit⟩) ∨
      Dialogue (afterMenu e choice) := by
  obtain ⟨c, state⟩ := e
  cases h
  unfold afterMenu
  cases hentry : MenuEntry.all[choice]?.getD .help with
  | exit =>
    refine Or.inl ⟨?_, rfl⟩
    cases hchoice : MenuEntry.all[choice]? with
    | none =>
      rw [hchoice] at hentry
      cases hentry
    | some entry =>
      rw [hchoice] at hentry
      exact congrArg some hentry
  | help => exact Or.inr (goTo_dialogue (e := ⟨c, .main⟩) rfl nofun)
  | listServices => exact Or.inr (goTo_dialogue (e := ⟨c, .listing⟩) rfl nofun)
  | addService => exact Or.inr (goTo_dialogue (e := ⟨c, .adding⟩) rfl nofun)
  | manageService =>
    refine Or.inr ?_
    show Dialogue (goTo ⟨c, .managing⟩ (if c.services.isEmpty then .noServices else .service))
    split
    · exact goTo_dialogue rfl nofun
    · exact goTo_dialogue rfl nofun

/-! ### one call -/

variable {π σ φ : Type} {s : Surroundings π σ φ} {file : String} {w w' w₁ : World π σ φ}
  {made : List Request} {r : Result} {t : Turn} {step step' : Step Turn Result}

/-- **A turn breaks off**: its last request failed, and the editor is left in the state in which that
was made. -/
inductive BreaksOff (s : Surroundings π σ φ) (file : String) (step : Step Turn Result)
    (w : World π σ φ) : List Request → Result → Prop
  | request {made : List Request} {t : Turn} {w₁ : World π σ φ} {fault : Fault}
      (h : s.Makes (Turn.request file) (Turn.resume file) step w made (.next t) w₁)
      (hin : t.point.In t.editor.state) (hfault : (s.reply w₁ (t.request file)).1 = .error fault) :
      BreaksOff s file step w (made ++ [t.request file]) ⟨t.editor, .error fault⟩

theorem BreaksOff.behind {made' : List Request}
    (h : s.Makes (Turn.request file) (Turn.resume file) step w made step' w')
    (hb : BreaksOff s file step' w' made' r) : BreaksOff s file step w (made ++ made') r := by
  cases hb with
  | request hmade hin hfault =>
    rw [← List.append_assoc]
    exact .request (h.trans hmade) hin hfault

theorem Dialogue.next_of_makes (h : Dialogue step)
    (hr : s.Makes (Turn.request file) (Turn.resume file) step w made (.next t) w') :
    t.point.In t.editor.state ∧ t.point ≠ .menu := by
  generalize hstep : Step.next t = step' at hr
  induction hr generalizing t with
  | none =>
    cases h with
    | asks hin hm =>
      cases hstep
      exact ⟨hin, hm⟩
    | ends _ => cases hstep
  | @reply rs t₁ w₁ _ ih =>
    obtain ⟨hin, hm⟩ := ih rfl
    cases hreply : (s.reply w₁ (t₁.request file)).1 with
    | error fault =>
      rw [hreply] at hstep
      cases hstep
    | ok answer =>
      have hnext : Dialogue (afterAnswer file t₁.editor t₁.point answer) :=
        afterAnswer_dialogue file hin hm answer
      rw [hreply] at hstep
      have hstep : Step.next t = afterAnswer file t₁.editor t₁.point answer := hstep
      rw [← hstep] at hnext
      cases hnext with
      | asks hin hm => exact ⟨hin, hm⟩

/-- **A dialogue ends at the main menu, or breaks off.** -/
theorem Dialogue.end_of_makes (h : Dialogue step)
    (hr : s.Makes (Turn.request file) (Turn.resume file) step w made (.done r) w') :
    (r.flow = .ok .proceed ∧ r.editor.state = .main) ∨ BreaksOff s file step w made r := by
  rcases hr.last_cases with ⟨-, rfl, -⟩ | ⟨rs, t, w₁, rfl, hrs, hend, -⟩
  · cases h with
    | ends hmain => exact Or.inl ⟨rfl, hmain⟩
  · obtain ⟨hin, hm⟩ := h.next_of_makes hrs
    cases hreply : (s.reply w₁ (t.request file)).1 with
    | error fault =>
      rw [hreply] at hend
      cases hend
      exact Or.inr (.request hrs hin hreply)
    | ok answer =>
      have hdone : Dialogue (afterAnswer file t.editor t.point answer) :=
        afterAnswer_dialogue file hin hm answer
      rw [hreply] at hend
      have hend : Step.done r = afterAnswer file t.editor t.point answer := hend
      rw [← hend] at hdone
      cases hdone with
      | ends hmain => exact Or.inl ⟨rfl, hmain⟩

/-- the end of a turn that only says the help, as it is said or not -/
def recovered (e : Editor) : Except Fault Unit → Result
  | .ok _ => ⟨{ e with state := .main }, .ok .proceed⟩
  | .error fault => ⟨e, .error fault⟩

def menuQuestion : Request :=
  .select "What would you like to do?" (MenuEntry.all.map (·.label)) 4

/-- **What a call can come to** -/
inductive Outcome (s : Surroundings π σ φ) (file : String) (e : Editor) (w : World π σ φ) :
    List Request → Result → World π σ φ → Prop
  | closed (h : e.state = .closed) : Outcome s file e w [] ⟨e, .ok .exit⟩ w
  | exits {choice : Nat} (h : e.state = .main) (hreply : (s.reply w menuQuestion).1 = .ok choice)
      (hexit : MenuEntry.all[choice]? = some .exit) :
      Outcome s file e w [menuQuestion] ⟨{ e with state := .closed }, .ok .exit⟩
        (s.reply w menuQuestion).2
  | proceeds {made : List Request} {r : Result} {w' : World π σ φ} (hflow : r.flow = .ok .proceed)
      (hmain : r.editor.state = .main) : Outcome s file e w made r w'
  | breaks {made : List Request} {r : Result} {w' : World π σ φ}
      (h : BreaksOff s file (start e) w made r) : Outcome s file e w made r w'

theorem start_main (h : e.state = .main) : start e = goTo e .menu := by
  unfold start
  rw [h]

theorem start_closed (h : e.state = .closed) : start e = leave e := by
  unfold start
  rw [h]

theorem start_recovery (h : e.state ≠ .main) (hc : e.state ≠ .closed) :
    start e = goTo e .recovery := by
  unfold start
  split
  · next hs => exact absurd hs h
  · next hs => exact absurd hs hc
  · rfl

theorem makes_recovery (s : Surroundings π σ φ) (file : String) (h : e.state ≠ .main)
    (hc : e.state ≠ .closed) (w : World π σ φ) :
    s.Makes (Turn.request file) (Turn.resume file) (start e) w [.say e.helpText]
      (.done (recovered e (s.prompter.say e.helpText w.user).1))
      { w with user := (s.prompter.say e.helpText w.user).2 } := by
  have hmakes : s.Makes (Turn.request file) (Turn.resume file) (.next ⟨e, .recovery⟩) w _ _ _ :=
    .first _ w
  have hend : Turn.resume file ⟨e, .recovery⟩ (s.prompter.say e.helpText w.user).1 =
      .done (recovered e (s.prompter.say e.helpText w.user).1) := by
    cases (s.prompter.say e.helpText w.user).1 with
    | ok _ =>
      show proceed e.returnToMain = _
      rw [Editor.returnToMain_eq hc]
      rfl
    | error fault => rfl
  rw [start_recovery h hc, ← hend]
  exact hmakes

theorem resume_menu_cases (file : String) (h : e.state = .main) (reply : menuQuestion.Reply) :
    (∃ fault, reply = .error fault ∧
        Turn.resume file ⟨e, .menu⟩ reply = .done ⟨e, .error fault⟩) ∨
      (∃ choice : Nat, reply = .ok choice ∧ MenuEntry.all[choice]? = some .exit ∧
        Turn.resume file ⟨e, .menu⟩ reply = .done ⟨{ e with state := .closed }, .ok .exit⟩) ∨
      Dialogue (Turn.resume file ⟨e, .menu⟩ reply) := by
  cases reply with
  | error fault => exact Or.inl ⟨fault, rfl, rfl⟩
  | ok choice =>
    rcases afterMenu_cases h choice with ⟨hexit, hleave⟩ | hdialogue
    · exact Or.inr (Or.inl ⟨choice, rfl, hexit, hleave⟩)
    · exact Or.inr (Or.inr hdialogue)

/-- the call at the main menu: the exit, a dialogue, or a menu that could not be shown -/
theorem outcome_main (h : e.state = .main)
    (hr : s.Makes (Turn.request file) (Turn.resume file) (start e) w made (.done r) w') :
    Outcome s file e w made r w' := by
  have hstart : start e = .next ⟨e, .menu⟩ := start_main h
  have hnone : s.Makes (Turn.request file) (Turn.resume file) (start e) w [] (.next ⟨e, .menu⟩) w :=
    hstart ▸ .none
  rw [hstart] at hr
  rcases hr.next_cases with ⟨-, hstep, -⟩ | ⟨rest, rfl, hrest⟩
  · cases hstep
  · rcases resume_menu_cases file h (s.reply w menuQuestion).1 with
      ⟨fault, hreply, hend⟩ | ⟨choice, hreply, hexit, hend⟩ | hdialogue
    · obtain ⟨rfl, hdone, rfl⟩ := (hend ▸ hrest).done_eq
      cases hdone
      exact .breaks (.request hnone h hreply)
    · obtain ⟨rfl, hdone, rfl⟩ := (hend ▸ hrest).done_eq
      cases hdone
      exact .exits h hreply hexit
    · rcases hdialogue.end_of_makes hrest with ⟨hflow, hmain⟩ | hbreaks
      · exact .proceeds hflow hmain
      · exact .breaks (hbreaks.behind hnone.reply)

/-- **What a call comes to**, whatever the state of the editor, the answers and the files. -/
theorem outcome (hr : s.Makes (Turn.request file) (Turn.resume file) (start e) w made (.done r) w') :
    Outcome s file e w made r w' := by
  by_cases hmain : e.state = .main
  · exact outcome_main hmain hr
  · by_cases hclosed : e.state = .closed
    · rw [start_closed hclosed] at hr
      obtain ⟨rfl, hdone, rfl⟩ := hr.done_eq
      cases hdone
      exact .closed hclosed
    · have hdialogue : Dialogue (start e) :=
        start_recovery hmain hclosed ▸ goTo_dialogue ⟨hmain, hclosed⟩ nofun
      rcases hdialogue.end_of_makes hr with ⟨hflow, hstate⟩ | hbreaks
      · exact .proceeds hflow hstate
      · exact .breaks hbreaks

theorem in_of_makes
    (hr : s.Makes (Turn.request file) (Turn.resume file) (start e) w made (.next t) w') :
    t.point.In t.editor.state := by
  by_cases hmain : e.state = .main
  · rw [start_main hmain] at hr
    rcases hr.next_cases with ⟨-, hstep, -⟩ | ⟨rest, -, hrest⟩
    · cases hstep
      exact hmain
    · rcases resume_menu_cases file hmain (s.reply w menuQuestion).1 with
        ⟨fault, -, hend⟩ | ⟨choice, -, -, hend⟩ | hdialogue
      · cases (hend ▸ hrest).done_eq.2.1
      · cases (hend ▸ hrest).done_eq.2.1
      · exact (hdialogue.next_of_makes hrest).1
  · by_cases hclosed : e.state = .closed
    · rw [start_closed hclosed] at hr
      cases hr.done_eq.2.1
    · have hdialogue : Dialogue (start e) :=
        start_recovery hmain hclosed ▸ goTo_dialogue ⟨hmain, hclosed⟩ nofun
      exact (hdialogue.next_of_makes hr).1

/-! ### calls one after the other -/

/-- a turn that was called for: where it began, what it asked for, and where it ended -/
structure Call (π σ φ : Type) where
  before : Editor
  world : World π σ φ
  made : List Request
  result : Result
  after : World π σ φ

def Call.Happens (s : Surroundings π σ φ) (file : String) (call : Call π σ φ) : Prop :=
  s.Makes (Turn.request file) (Turn.resume file) (start call.before) call.world call.made
    (.done call.result) call.after

/-- **Calls one after the other**, each with the editor and the world that the last one left -/
inductive Calls (s : Surroundings π σ φ) (file : String) (e : Editor) (w : World π σ φ) :
    List (Call π σ φ) → Editor → World π σ φ → Prop
  | none : Calls s file e w [] e w
  | call {calls : List (Call π σ φ)} {e₁ : Editor} {w₁ : World π σ φ} {made : List Request}
      {r : Result} {w₂ : World π σ φ} (h : Calls s file e w calls e₁ w₁)
      (hc : Call.Happens s file ⟨e₁, w₁, made, r, w₂⟩) :
      Calls s file e w (calls ++ [⟨e₁, w₁, made, r, w₂⟩]) r.editor w₂

/-- a turn that comes to its end is a call that happens -/
theorem turn?_eq_some_iff :
    (∃ fuel, turn? s file fuel e w = some (r, w')) ↔
      ∃ made, Call.Happens s file ⟨e, w, made, r, w'⟩ := by
  constructor
  · rintro ⟨fuel, h⟩
    exact Surroundings.makes_of_reaches (Surroundings.reaches_of_run h)
  · rintro ⟨made, h⟩
    exact ⟨made.length, h.run_done 0⟩

/-- **What the protocol says of a call**, and of those behind it -/
structure Call.Obeys (s : Surroundings π σ φ) (file : String) (call : Call π σ φ) : Prop where
  proceeds : call.result.flow = .ok .proceed → call.result.editor.state = .main
  exits : call.result.flow = .ok .exit → call.result.editor.state = .closed ∧
    (∀ fuel, turn? s file fuel call.result.editor call.after =
      some (⟨call.result.editor, .ok .exit⟩, call.after)) ∧
    ∀ later e w, Calls s file call.result.editor call.after later e w →
      e = call.result.editor ∧ w = call.after ∧
        ∀ next ∈ later, next.made = [] ∧ next.result = ⟨call.result.editor, .ok .exit⟩
  /-- the last request failed, and the state is the one in which it was made -/
  breaks : ∀ fault, call.result.flow = .error fault →
    BreaksOff s file (start call.before) call.world call.made call.result
  /-- the next call says the help of the state, and if that is said it is back at the main menu -/
  recovers : ∀ fault, call.result.flow = .error fault → call.result.editor.state ≠ .main →
    ∀ made r w, Call.Happens s file ⟨call.result.editor, call.after, made, r, w⟩ ↔
      made = [.say call.result.editor.helpText] ∧
      r = recovered call.result.editor
        (s.prompter.say call.result.editor.helpText call.after.user).1 ∧
      w = { call.after with
        user := (s.prompter.say call.result.editor.helpText call.after.user).2 }
  /-- nothing but the choice of the exit closes the editor -/
  closes : call.result.editor.state = .closed → call.before.state = .closed ∨
    (call.before.state = .main ∧ call.made = [menuQuestion] ∧ ∃ choice : Nat,
      (s.reply call.world menuQuestion).1 = .ok choice ∧ MenuEntry.all[choice]? = some .exit)
  /-- and it is not closed on the way -/
  within : ∀ made t w, s.Makes (Turn.request file) (Turn.resume file) (start call.before) call.world
    made (.next t) w → t.editor.state ≠ .closed

theorem BreaksOff.state_ne_closed (h : BreaksOff s file step w made r) :
    r.editor.state ≠ .closed := by
  cases h with
  | request _ hin _ => exact hin.ne_closed

theorem calls_closed (h : e.state = .closed) {later : List (Call π σ φ)} {e' : Editor}
    (hc : Calls s file e w later e' w') :
    e' = e ∧ w' = w ∧ ∀ next ∈ later, next.made = [] ∧ next.result = ⟨e, .ok .exit⟩ := by
  induction hc with
  | none => exact ⟨rfl, rfl, List.forall_mem_nil _⟩
  | call _ hcall ih =>
    obtain ⟨rfl, rfl, hlater⟩ := ih
    unfold Call.Happens at hcall
    rw [start_closed h] at hcall
    obtain ⟨hmade, hresult, hafter⟩ := hcall.done_eq
    dsimp only at hmade hresult hafter
    cases hmade
    cases hresult
    cases hafter
    refine ⟨rfl, rfl, ?_⟩
    rw [List.forall_mem_append, List.forall_mem_singleton]
    exact ⟨hlater, rfl, rfl⟩

/-- **Every call obeys the protocol.** -/
theorem Call.Happens.obeys {call : Call π σ φ} (h : call.Happens s file) : call.Obeys s file := by
  obtain ⟨before, world, made, result, after⟩ := call
  have houtcome : Outcome s file before world made result after := outcome h
  refine ⟨fun hflow => ?_, fun hflow => ?_, fun fault hflow => ?_, fun fault hflow hmain => ?_,
    fun hclosed => ?_, fun made t w ht => (in_of_makes ht).ne_closed⟩
  · cases houtcome with
    | proceeds _ hmain => exact hmain
    | breaks hb => cases hb; cases hflow
    | _ => cases hflow
  · have hclosed : result.editor.state = .closed := by
      cases houtcome with
      | closed hclosed => exact hclosed
      | exits => rfl
      | proceeds hproceeds _ => cases hproceeds.symm.trans hflow
      | breaks hb => cases hb; cases hflow
    refine ⟨hclosed, fun fuel => ?_, fun later e w hc => calls_closed hclosed hc⟩
    show turn? s file fuel result.editor after = _
    unfold turn?
    rw [start_closed hclosed]
    exact Surroundings.run_done ..
  · cases houtcome with
    | proceeds hproceeds _ => cases hproceeds.symm.trans hflow
    | breaks hb => exact hb
    | _ => cases hflow
  · have hclosed : result.editor.state ≠ .closed := by
      cases houtcome with
      | breaks hb => exact hb.state_ne_closed
      | proceeds hproceeds _ => cases hproceeds.symm.trans hflow
      | _ => cases hflow
    have hrecovery := makes_recovery s file hmain hclosed after
    intro made' r' w'
    constructor
    · intro hnext
      exact hnext.unique hrecovery
    · rintro ⟨rfl, rfl, rfl⟩
      exact hrecovery
  · cases houtcome with
    | closed hbefore => exact Or.inl hbefore
    | exits hmain hreply hexit => exact Or.inr ⟨hmain, rfl, _, hreply, hexit⟩
    | proceeds _ hmain => cases hmain.symm.trans hclosed
    | breaks hb => exact absurd hclosed hb.state_ne_closed

/-- **The session obeys the protocol in every history**: whatever the editor is at first, the answers
and the files, and behind turns that failed as well. -/
theorem calls_obey {calls : List (Call π σ φ)} {e' : Editor} (h : Calls s file e w calls e' w') :
    ∀ call ∈ calls, call.Obeys s file := by
  induction h with
  | none => exact List.forall_mem_nil _
  | call _ hc ih =>
    rw [List.forall_mem_append, List.forall_mem_singleton]
    exact ⟨ih, hc.obeys⟩

/-- a choice that is no answer breaks off the dialogue about a service; the help leads back to the main
menu, and the exit out of it -/
theorem calls_obey_recovered :
    let s : Surroundings Script Memory Fetched :=
      ⟨Script.prompter, Memory.storage, Fetched.unreachable⟩
    let c : Context := ⟨"Orders", .rest, [.new "A"]⟩
    let answers : List Script.Answer := [.position 2, .position 0, .text "x", .position 3]
    let w₀ : World Script Memory Fetched := ⟨.new answers, .ofFiles [], .none⟩
    ∃ calls e w, Calls s "data.json" (.new c) w₀ calls e w ∧
      calls.map (·.result.editor.state) = [.managing, .main, .closed] ∧
      ∀ call ∈ calls, call.Obeys s "data.json" := by
  intro s c answers w₀
  let makes := s.Makes (Turn.request "data.json") (Turn.resume "data.json")
  let broken : Editor := ⟨c, .managing⟩
  let w₁ := (s.reply (s.reply (s.reply w₀ menuQuestion).2
    (Turn.request "data.json" ⟨broken, .service⟩)).2
    (Turn.request "data.json" ⟨broken, .action "A"⟩)).2
  let w₂ := (s.reply w₁ (.say broken.helpText)).2
  have hmenu : makes (start (.new c)) w₀ [] (.next ⟨.new c, .menu⟩) w₀ := .none
  have hhelp : makes (start broken) w₁ [] (.next ⟨broken, .recovery⟩) w₁ := .none
  have hexit : makes (start (.new c)) w₂ [] (.next ⟨.new c, .menu⟩) w₂ := .none
  have hbreaks : Call.Happens s "data.json"
      ⟨.new c, w₀, _, ⟨broken, .error Script.otherAnswer⟩, w₁⟩ := hmenu.reply.reply.reply
  have hrecovers : Call.Happens s "data.json" ⟨broken, w₁, _, ⟨.new c, .ok .proceed⟩, w₂⟩ :=
    hhelp.reply
  have hcloses : Call.Happens s "data.json" ⟨.new c, w₂, _, ⟨⟨c, .closed⟩, .ok .exit⟩, _⟩ :=
    hexit.reply
  have hcalls := ((Calls.none.call hbreaks).call hrecovers).call hcloses
  exact ⟨_, _, _, hcalls, rfl, calls_obey hcalls⟩

end Session

end ServiceDiagram
