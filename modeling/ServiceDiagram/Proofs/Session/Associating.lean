import ServiceDiagram.Proofs.Session.Choices
import ServiceDiagram.Proofs.Surroundings.Exchanges

/-!
# What comes of adding an association

The dialogue about an association asks for its kind and its target, and then for the fields that the kind
uses.  It is followed with the association that is under way (`Partly`), from the last question backwards.
`Concludes` lists how it can end, each end with all that was said: the association is added to the chosen
service and saved, or nothing is changed.

* `Begun`     the answers that give a kind and a target;
* `fields`    the answers that give the other fields of an association;
* `Told`      all the answers that an association is made of;
* `Concludes`   the ends of the dialogue.
-/

namespace ServiceDiagram.Session

/-! ### what is said -/

def kindChosen (choice : Nat) : Exchange :=
  .chosen "Association type" (AssociationKind.known.map (·.label)) 0 choice

def targetTyped (answer : String) : Exchange := .typed "Target type" "" answer

def labelTyped (answer : String) : Exchange := .typed "Label" "" answer

def localTyped (answer : String) : Exchange := .typed "Local multiplicity" "1" answer

def remoteTyped (answer : String) : Exchange := .typed "Remote multiplicity" "0..*" answer

/-- **A kind of the list and a target that is not blank**, without the blanks at its ends -/
inductive Begun : List Exchange → AssociationKind → String → Prop
  | intro {choice : Nat} {kind : AssociationKind} {answer : String}
      (hkind : AssociationKind.known[choice]? = some kind) (hanswer : Text.trim answer ≠ "") :
      Begun [kindChosen choice, targetTyped answer] kind (Text.trim answer)

/-- the fields that an association has, in the order in which they are asked for -/
def fields (a : Association) : List Exchange :=
  (a.text.map labelTyped).toList ++ (a.localMultiplicity.map localTyped).toList ++
    (a.remoteMultiplicity.map remoteTyped).toList

/-- the answers give these fields of the association, and nothing else was said -/
def Gives (xs : List Exchange) (a : Association) : Prop :=
  ∃ front, Begun front a.kind a.target ∧ xs = front ++ fields a

/-- **The answers that an association is made of**: it has the fields that its kind uses, and no others. -/
structure Told (xs : List Exchange) (a : Association) : Prop where
  gives : Gives xs a
  text : a.text.isSome = a.kind.usesText
  localEnd : a.localMultiplicity.isSome = a.kind.usesMultiplicity
  remoteEnd : a.remoteMultiplicity.isSome = a.kind.usesMultiplicity

/-! ### how it ends -/

def associated (e : Editor) (i : Nat) (t : Service) (a : Association) : Editor :=
  { e with context := { e.context with
    services := e.context.services.set i { t with associations := t.associations ++ [a] } } }

/-- **A turn that saves its context once** and goes on with the service of this name -/
structure SavesOnce (file name : String) (turn : Turn) : Prop where
  request : turn.request file = .write file (Document.write turn.editor.context)
  saved : ∀ answer, turn.resume file (.ok answer) = goTo turn.editor (.action name)
  unsaved : ∀ fault, turn.resume file (.error fault) = .done ⟨turn.editor, .error fault⟩

/-- **The ends of the dialogue** about an association of entry `i`, the service `t` -/
inductive Concludes (file : String) (e : Editor) (i : Nat) (t : Service) :
    List Exchange → Step Turn Result → Prop
  /-- the association is added, and saved next -/
  | commits {xs : List Exchange} {a : Association} {turn : Turn} (htold : Told xs a)
      (heditor : turn.editor = associated e i t a) (hsaves : SavesOnce file t.name turn) :
      Concludes file e i t xs (.next turn)
  /-- the list has no kind at the position -/
  | noKind {choice : Nat} (hkind : AssociationKind.known[choice]? = none) :
      Concludes file e i t [kindChosen choice] (goTo e (.action t.name))
  /-- the target is blank, which is said -/
  | noTarget {choice : Nat} {kind : AssociationKind} {answer : String}
      (hkind : AssociationKind.known[choice]? = some kind) (hanswer : Text.trim answer = "") :
      Concludes file e i t
        [kindChosen choice, targetTyped answer, .said "An association needs a target type."]
        (goTo e (.action t.name))
  /-- a request fails, and ends the turn -/
  | fails {front : List Exchange} {r : Request} {fault : Fault} (hfront : ∀ x ∈ front, x.Answered)
      (hr : r.ofUser = true) :
      Concludes file e i t (front ++ [.failed r fault]) (.done ⟨e, .error fault⟩)

/-! ### answers so far -/

variable {xs : List Exchange} {a : Association}

theorem answered_begun (choice : Nat) (answer : String) :
    ∀ x ∈ [kindChosen choice, targetTyped answer], x.Answered :=
  List.forall_mem_cons.mpr ⟨Exchange.answered_chosen _ _ _ _,
    List.forall_mem_singleton.mpr (Exchange.answered_typed _ _ _)⟩

theorem Begun.answered {kind : AssociationKind} {target : String} (h : Begun xs kind target) :
    ∀ x ∈ xs, x.Answered := by
  cases h with
  | intro hkind hanswer => exact answered_begun _ _

theorem answered_fields (a : Association) : ∀ x ∈ fields a, x.Answered := by
  have hfield (message default : String) (field : Option String) :
      ∀ x ∈ (field.map (Exchange.typed message default)).toList, x.Answered := by
    intro x hx
    obtain ⟨answer, -, rfl⟩ := Option.map_eq_some_iff.mp (Option.mem_toList.mp hx)
    exact Exchange.answered_typed _ _ _
  exact List.forall_mem_append.mpr
    ⟨List.forall_mem_append.mpr ⟨hfield _ _ _, hfield _ _ _⟩, hfield _ _ _⟩

theorem Gives.answered (h : Gives xs a) : ∀ x ∈ xs, x.Answered := by
  obtain ⟨front, hfront, rfl⟩ := h
  exact List.forall_mem_append.mpr ⟨hfront.answered, answered_fields a⟩

/-- **An association that has no multiplicities yet**, and the answers that it is made of -/
structure Partly (xs : List Exchange) (a : Association) : Prop where
  gives : Gives xs a
  noLocal : a.localMultiplicity = none
  noRemote : a.remoteMultiplicity = none

theorem Begun.partly {kind : AssociationKind} {target : String} (h : Begun xs kind target) :
    Partly xs (.new kind target) :=
  ⟨⟨xs, h, (List.append_nil xs).symm⟩, rfl, rfl⟩

theorem Partly.label (h : Partly xs a) (htext : a.text = none) (answer : String) :
    Partly (xs ++ [labelTyped answer]) { a with text := some answer } := by
  obtain ⟨⟨front, hfront, rfl⟩, hlocal, hremote⟩ := h
  refine ⟨⟨front, hfront, ?_⟩, hlocal, hremote⟩
  simp [fields, htext, hlocal, hremote]

theorem Partly.told (h : Partly xs a) (htext : a.text.isSome = a.kind.usesText)
    (hends : a.kind.usesMultiplicity = false) : Told xs a := by
  refine ⟨h.gives, htext, ?_, ?_⟩
  · rw [h.noLocal, hends]
    rfl
  · rw [h.noRemote, hends]
    rfl

theorem Partly.ends (h : Partly xs a) (htext : a.text.isSome = a.kind.usesText)
    (hends : a.kind.usesMultiplicity = true) (localEnd remoteEnd : String) :
    Told (xs ++ [localTyped localEnd] ++ [remoteTyped remoteEnd])
      { a with localMultiplicity := some localEnd, remoteMultiplicity := some remoteEnd } := by
  obtain ⟨⟨front, hfront, rfl⟩, hlocal, hremote⟩ := h
  refine ⟨⟨front, hfront, ?_⟩, htext, hends.symm, hends.symm⟩
  simp [fields, hlocal, hremote]

/-! ### one question after the other -/

variable {π σ φ : Type} {s : Surroundings π σ φ} {w : World π σ φ} {file : String} {e : Editor}
  {i : Nat} {t : Service}

/-- what is left of the dialogue after the answers `front` -/
def Remains (s : Surroundings π σ φ) (file : String) (e : Editor) (i : Nat) (t : Service)
    (front : List Exchange) (step : Step Turn Result) (w : World π σ φ) : Prop :=
  s.Talks (Turn.request file) (Turn.resume file) step w fun xs => Concludes file e i t (front ++ xs)

theorem Remains.asks {front : List Exchange} {p : Point} (hfront : ∀ x ∈ front, x.Answered)
    (hu : (Turn.request file ⟨e, p⟩).ofUser = true)
    (h : ∀ answer w, Remains s file e i t (front ++ [⟨Turn.request file ⟨e, p⟩, .ok answer⟩])
      (afterAnswer file e p answer) w) :
    Remains s file e i t front (goTo e p) w := by
  refine Surroundings.Talks.asks hu (fun fault => .fails hfront hu) fun answer => ?_
  have hrest := h answer (s.reply w (Turn.request file ⟨e, p⟩)).2
  -- the answer is the last one so far, and the first one of what is left
  unfold Remains at hrest
  simp only [List.append_assoc, List.singleton_append] at hrest
  exact hrest

theorem Remains.ends {step : Step Turn Result} (h : Concludes file e i t xs step) :
    Remains s file e i t xs step w := by
  refine Surroundings.Talks.here ?_
  rwa [List.append_nil]

theorem remains_told (hfirst : Context.IsFirst e.context.services i t) (h : Told xs a) :
    Remains s file e i t xs (afterEdit t.name (e.addAssociation t.name a)) w := by
  have hedit : e.addAssociation t.name a = (true, associated e i t a) :=
    (edit_entry_iff hfirst.entry).mp hfirst _
  rw [hedit]
  exact .ends (.commits h rfl ⟨rfl, fun _ => rfl, fun _ => rfl⟩)

/-- only the multiplicities are left, if the kind uses them -/
theorem remains_ends (hfirst : Context.IsFirst e.context.services i t) (h : Partly xs a)
    (htext : a.text.isSome = a.kind.usesText) :
    Remains s file e i t xs
      (if a.kind.usesMultiplicity then goTo e (.localEnd t.name a)
        else afterEdit t.name (e.addAssociation t.name a)) w := by
  split
  · next hends =>
    refine .asks h.gives.answered rfl fun localEnd w => ?_
    have hlocal : ∀ x ∈ xs ++ [localTyped localEnd], x.Answered :=
      List.forall_mem_append.mpr
        ⟨h.gives.answered, List.forall_mem_singleton.mpr (Exchange.answered_typed _ _ _)⟩
    exact .asks hlocal rfl fun remoteEnd w => remains_told hfirst (h.ends htext hends localEnd remoteEnd)
  · next hends => exact remains_told hfirst (h.told htext (eq_false_of_ne_true hends))

theorem remains_fields (hfirst : Context.IsFirst e.context.services i t) {kind : AssociationKind}
    {target : String} (h : Begun xs kind target) :
    Remains s file e i t xs
      (if kind.usesText then goTo e (.label t.name (.new kind target))
        else if kind.usesMultiplicity then goTo e (.localEnd t.name (.new kind target))
        else afterEdit t.name (e.addAssociation t.name (.new kind target))) w := by
  split
  · next htext =>
    refine .asks h.answered rfl fun answer w => ?_
    exact remains_ends hfirst (h.partly.label rfl answer) htext.symm
  · next htext => exact remains_ends hfirst h.partly (eq_false_of_ne_true htext).symm

theorem nonBlank_of_trim_eq {answer : String} (h : Text.trim answer = "") : nonBlank answer = none := by
  simp [nonBlank, h]

theorem nonBlank_of_trim_ne {answer : String} (h : Text.trim answer ≠ "") :
    nonBlank answer = some (Text.trim answer) := by
  simp [nonBlank, h]

theorem remains_target (hfirst : Context.IsFirst e.context.services i t) {choice : Nat}
    {kind : AssociationKind} (hkind : AssociationKind.known[choice]? = some kind) :
    Remains s file e i t [kindChosen choice] (goTo e (.target t.name kind)) w := by
  have hchosen : ∀ x ∈ [kindChosen choice], x.Answered :=
    List.forall_mem_singleton.mpr (Exchange.answered_chosen _ _ _ _)
  refine .asks hchosen rfl fun answer w => ?_
  show Remains s file e i t [kindChosen choice, targetTyped answer] (afterTarget e t.name kind answer) w
  unfold afterTarget
  by_cases hanswer : Text.trim answer = ""
  · rw [nonBlank_of_trim_eq hanswer]
    exact .asks (answered_begun choice answer) rfl fun _ w => .ends (.noTarget hkind hanswer)
  · rw [nonBlank_of_trim_ne hanswer]
    exact remains_fields hfirst (.intro hkind hanswer)

theorem remains_kind (hfirst : Context.IsFirst e.context.services i t) :
    Remains s file e i t [] (goTo e (.associationKind t.name)) w := by
  refine .asks (fun _ hx => absurd hx List.not_mem_nil) rfl fun (choice : Nat) w => ?_
  show Remains s file e i t [kindChosen choice] (afterAssociationKind e t.name choice) w
  unfold afterAssociationKind
  cases hkind : AssociationKind.known[choice]? with
  | none => exact .ends (.noKind hkind)
  | some kind => exact remains_target hfirst hkind

/-- **Adding an association is all or nothing**, whatever the user does.  The files stay as they are until
the dialogue is over.  It adds one association to the chosen service, made of all that was asked for,
and the context is saved next; or it leaves the context as it was. -/
theorem association_told (s : Surroundings π σ φ) (file : String) (w : World π σ φ) {choice : Nat}
    (hnames : e.context.serviceNames.Nodup) (ht : e.context.services[i]? = some t)
    (hchoice : ServiceAction.all[choice]? = some .addAssociation) :
    afterService e i = goTo e (.action t.name) ∧
      ∃ xs step w',
        s.Exchanges (Turn.request file) (Turn.resume file) (afterAction e t.name choice) w xs step w' ∧
          w.Alike w' ∧ Concludes file e i t xs step := by
  have hfirst := Context.nodup_names_iff.mp hnames i t ht
  have hasks : afterAction e t.name choice = goTo e (.associationKind t.name) := by
    rw [afterAction, hchoice]
    rfl
  rw [hasks]
  exact ⟨afterService_entry ht, remains_kind hfirst⟩

/-- an aggregation is asked for with all its fields, and added to the second of two services -/
theorem association_told_aggregation :
    let c : Context := ⟨"Orders", .grpc, [.new "A", .new "B"]⟩
    let e : Editor := ⟨c, .managing⟩
    let answers : List Script.Answer :=
      [.position 2, .text " Item ", .text "has", .text "1", .text "0..*"]
    let s : Surroundings Script Memory Fetched :=
      ⟨Script.prompter, Memory.storage, Fetched.unreachable⟩
    let w : World Script Memory Fetched := ⟨.new answers, .ofFiles [], .none⟩
    let added : Association := ⟨.aggregation, "Item", some "has", some "1", some "0..*"⟩
    let exchanges := s.Exchanges (Turn.request "data.json") (Turn.resume "data.json")
      (afterAction e "B" 0) w
    (afterService e 1 = goTo e (.action "B") ∧ ∃ xs step w', exchanges xs step w' ∧ w.Alike w' ∧
        Concludes "data.json" e 1 (.new "B") xs step) ∧
      ∃ w', exchanges
        [kindChosen 2, targetTyped " Item ", labelTyped "has", localTyped "1", remoteTyped "0..*"]
        (goTo (associated e 1 (.new "B") added) (.saveEdit "B")) w' := by
  intro c e answers s w added exchanges
  have hnames : e.context.serviceNames.Nodup := by decide
  have hservice : e.context.services[1]? = some (.new "B") := rfl
  have hchoice : ServiceAction.all[0]? = some .addAssociation := rfl
  exact ⟨association_told s "data.json" w hnames hservice hchoice, _,
    .reply (.reply (.reply (.reply (.reply (.none _ _)))))⟩

end ServiceDiagram.Session
