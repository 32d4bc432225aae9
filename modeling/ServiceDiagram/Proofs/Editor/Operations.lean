import ServiceDiagram.Proofs.Model.Names
import ServiceDiagram.Proofs.Session.Steps

/-!
# Operations of the editor, one after the other

An editor is moved by entries of the menu and changed by edits.  An edit goes by the name of a service:
it changes the service that is found under the name, and nothing else, and it tells whether there is one.
What each operation does is said of every editor, also of one that is closed and of contexts in which
names are repeated (`Operation.does`); the rest holds of all operations that follow each other
(`history_sound`).

* `Operation`     an operation with its arguments;
* `Does`          what an operation tells, and what the context is after it;
* `history`       operations made one after the other, each with the editors before and after it;
* `Sound`         what holds of such a history.
-/

namespace ServiceDiagram.Editor

/-! ### operations -/

inductive Operation where
  | step (entry : MenuEntry)
  | returnToMain
  | addService (name : String)
  | addAssociation (name : String) (a : Association)
  | setStereotype (name : String) (value : Option String)
  | setKind (name : String) (value : Option String)

/-- what an operation tells, if it tells anything, and the editor after it -/
def Operation.apply (op : Operation) (e : Editor) : Option Bool × Editor :=
  match op with
  | .step entry => (none, e.step entry)
  | .returnToMain => (none, e.returnToMain)
  | .addService name => (e.addService name).map some id
  | .addAssociation name a => (e.addAssociation name a).map some id
  | .setStereotype name value => (e.setStereotype name value).map some id
  | .setKind name value => (e.setKind name value).map some id

/-- **One more service, without any fields**, at the end and if the name is not taken -/
inductive Adds (c : Context) (name : String) : Option Bool → Context → Prop
  | added (hname : name ∉ c.serviceNames) :
      Adds c name (some true) { c with services := c.services ++ [⟨name, none, none, []⟩] }
  | taken (hname : name ∈ c.serviceNames) : Adds c name (some false) c

/-- **A change of the service that is found** under a name, if there is one -/
inductive Changes (c : Context) (name : String) (f : Service → Service) : Option Bool → Context → Prop
  | changed {i : Nat} {s : Service} (hname : name ∈ c.serviceNames) (hfind : c.find? name = some s)
      (hfirst : Context.IsFirst c.services i s) :
      Changes c name f (some true) { c with services := c.services.set i (f s) }
  | absent (hname : name ∉ c.serviceNames) : Changes c name f (some false) c

/-- **What an operation does**: what it tells in a context, and the context after it -/
def Operation.Does (c : Context) (told : Option Bool) (d : Context) : Operation → Prop
  | .step _ => told = none ∧ d = c
  | .returnToMain => told = none ∧ d = c
  | .addService name => Adds c name told d
  | .addAssociation name a =>
    Changes c name (fun s => { s with associations := s.associations ++ [a] }) told d
  | .setStereotype name value => Changes c name (fun s => { s with stereotype := value }) told d
  | .setKind name value => Changes c name (fun s => { s with kind := value }) told d

/-! ### one operation -/

theorem adds_addService (e : Editor) (name : String) :
    Adds e.context name (some (e.addService name).1) (e.addService name).2.context := by
  unfold addService Context.add?
  by_cases hname : name ∈ e.context.serviceNames
  · have htaken : e.context.has (Service.new name).name = true := Context.has_iff.mpr hname
    rw [if_pos htaken]
    show Adds e.context name (some false) e.returnToMain.context
    rw [context_returnToMain]
    exact .taken hname
  · have hfree : ¬ e.context.has (Service.new name).name = true := fun h => hname (Context.has_iff.mp h)
    rw [if_neg hfree]
    show Adds e.context name (some true) (returnToMain _).context
    rw [context_returnToMain]
    exact .added hname

theorem changes_edit (e : Editor) (name : String) (f : Service → Service) :
    Changes e.context name f (some (e.edit name f).1) (e.edit name f).2.context := by
  unfold edit Context.change?
  by_cases hname : name ∈ e.context.serviceNames
  · -- names may be repeated: the first service of the name is both the one found and the one changed
    obtain ⟨i, s, hfirst, rfl⟩ := Context.exists_isFirst hname
    rw [hfirst.changeFirst? f]
    exact .changed hname hfirst.find? hfirst
  · rw [Context.changeFirst?_eq_none hname]
    exact .absent hname

/-- **Every operation does what it says**, in every editor. -/
theorem Operation.does (op : Operation) (e : Editor) :
    op.Does e.context (op.apply e).1 (op.apply e).2.context := by
  cases op with
  | step entry => exact ⟨rfl, e.context_step entry⟩
  | returnToMain => exact ⟨rfl, e.context_returnToMain⟩
  | addService name => exact adds_addService e name
  | addAssociation name a => exact changes_edit e name _
  | setStereotype name value => exact changes_edit e name _
  | setKind name value => exact changes_edit e name _

variable {c d : Context} {told : Option Bool} {name : String} {f : Service → Service}

theorem Changes.names (h : Changes c name f told d) (hf : ∀ s, (f s).name = s.name) :
    d.serviceNames = c.serviceNames := by
  cases h with
  | changed _ _ hfirst => exact Context.names_set hfirst.entry (hf _)
  | absent => rfl

theorem Changes.same (h : Changes c name f told d) : d.name = c.name ∧ d.framework = c.framework := by
  cases h <;> exact ⟨rfl, rfl⟩

theorem Operation.Does.nodup {op : Operation} (h : op.Does c told d) (hc : c.serviceNames.Nodup) :
    d.serviceNames.Nodup := by
  cases op with
  | step entry => exact h.2 ▸ hc
  | returnToMain => exact h.2 ▸ hc
  | addService name =>
    cases h with
    | added hname => exact Context.nodup_names_concat hc hname
    | taken => exact hc
  | addAssociation name a => exact Changes.names h (fun _ => rfl) ▸ hc
  | setStereotype name value => exact Changes.names h (fun _ => rfl) ▸ hc
  | setKind name value => exact Changes.names h (fun _ => rfl) ▸ hc

theorem Operation.Does.same {op : Operation} (h : op.Does c told d) :
    d.name = c.name ∧ d.framework = c.framework := by
  cases op with
  | step entry => exact h.2 ▸ ⟨rfl, rfl⟩
  | returnToMain => exact h.2 ▸ ⟨rfl, rfl⟩
  | addService name => cases h <;> exact ⟨rfl, rfl⟩
  | addAssociation name a => exact Changes.same h
  | setStereotype name value => exact Changes.same h
  | setKind name value => exact Changes.same h

theorem Operation.state_closed (op : Operation) {e : Editor} (h : e.state = .closed) :
    (op.apply e).2.state = .closed := by
  have hreturn {e : Editor} (h : e.state = .closed) : e.returnToMain.state = .closed := by
    rw [Editor.returnToMain, if_pos h, h]
  cases op with
  | step entry =>
    show (e.step entry).state = .closed
    unfold Editor.step
    rw [if_pos h, h]
  | returnToMain => exact hreturn h
  | addService name =>
    show (e.addService name).2.state = .closed
    unfold Editor.addService
    split
    · exact hreturn h
    · exact hreturn h
  | addAssociation name a => exact (state_edit e name _).trans h
  | setStereotype name value => exact (state_edit e name _).trans h
  | setKind name value => exact (state_edit e name _).trans h

/-! ### one operation after the other -/

/-- an operation that was made, with the editors before and after it -/
structure Made where
  before : Editor
  operation : Operation
  told : Option Bool
  after : Editor

/-- **Operations made one after the other** -/
def history (e : Editor) : List Operation → List Made
  | [] => []
  | op :: ops => ⟨e, op, (op.apply e).1, (op.apply e).2⟩ :: history (op.apply e).2 ops

/-- **What holds of all operations** that were made from an editor on -/
structure Sound (e : Editor) (made : List Made) : Prop where
  /-- each does what it says, in whatever state the editor is -/
  does : ∀ m ∈ made, m.operation.Does m.before.context m.told m.after.context
  names : e.context.serviceNames.Nodup → ∀ m ∈ made, m.after.context.serviceNames.Nodup
  same : ∀ m ∈ made, m.after.context.name = e.context.name ∧
    m.after.context.framework = e.context.framework
  /-- no operation leads out of the closed state -/
  closed : e.state = .closed → ∀ m ∈ made, m.after.state = .closed
  staysClosed : made.Pairwise fun m m' => m.after.state = .closed → m'.after.state = .closed

theorem mem_history {e : Editor} {ops : List Operation} {m : Made} (h : m ∈ history e ops) :
    m.told = (m.operation.apply m.before).1 ∧ m.after = (m.operation.apply m.before).2 := by
  induction ops generalizing e with
  | nil => exact absurd h List.not_mem_nil
  | cons op ops ih =>
    rcases List.mem_cons.mp h with rfl | h
    · exact ⟨rfl, rfl⟩
    · exact ih h

theorem history_keeps {P : Editor → Prop} (hkeeps : ∀ (op : Operation) e, P e → P (op.apply e).2)
    {e : Editor} (he : P e) (ops : List Operation) : ∀ m ∈ history e ops, P m.after := by
  induction ops generalizing e with
  | nil => exact List.forall_mem_nil _
  | cons op ops ih => exact List.forall_mem_cons.mpr ⟨hkeeps op e he, ih (hkeeps op e he)⟩

theorem history_closed {e : Editor} (he : e.state = .closed) (ops : List Operation) :
    ∀ m ∈ history e ops, m.after.state = .closed :=
  history_keeps (P := fun e => e.state = .closed) (fun op _ h => op.state_closed h) he ops

theorem history_staysClosed (e : Editor) (ops : List Operation) :
    (history e ops).Pairwise fun m m' => m.after.state = .closed → m'.after.state = .closed := by
  induction ops generalizing e with
  | nil => exact .nil
  | cons op ops ih =>
    -- the operations behind the first one are the history of the editor that it left
    exact .cons (fun m hm hclosed => history_closed hclosed ops m hm) (ih _)

/-- **Edits by name keep the names apart and touch nothing else**, in any order and number. -/
theorem history_sound (e : Editor) (ops : List Operation) : Sound e (history e ops) where
  does := by
    intro m hm
    obtain ⟨htold, hafter⟩ := mem_history hm
    rw [htold, hafter]
    exact m.operation.does m.before
  names hnames := history_keeps (P := fun e => e.context.serviceNames.Nodup)
    (fun op e h => (op.does e).nodup h) hnames ops
  same := history_keeps
    (P := fun e' => e'.context.name = e.context.name ∧ e'.context.framework = e.context.framework)
    (fun op e' h => ⟨(op.does e').same.1.trans h.1, (op.does e').same.2.trans h.2⟩) ⟨rfl, rfl⟩ ops
  closed he := history_closed he ops
  staysClosed := history_staysClosed e ops

/-- names that are repeated, and an editor that is closed -/
example :
    let c : Context := ⟨"Orders", .rest, [.new "A", .new "A"]⟩
    (history ⟨c, .closed⟩ [.setKind "A" (some "X"), .addService "A", .addService "B"]).map
        (fun m => (m.told, m.after)) =
      [(some true, ⟨{ c with services := [⟨"A", some "X", none, []⟩, .new "A"] }, .closed⟩),
       (some false, ⟨{ c with services := [⟨"A", some "X", none, []⟩, .new "A"] }, .closed⟩),
       (some true,
        ⟨{ c with services := [⟨"A", some "X", none, []⟩, .new "A", .new "B"] }, .closed⟩)] := by
  decide

end ServiceDiagram.Editor
