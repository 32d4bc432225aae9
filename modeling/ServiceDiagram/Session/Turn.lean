import ServiceDiagram.Session.Point

/-!
# Turns

The requests of a turn and what their replies lead to.
-/

namespace ServiceDiagram.Session

def defaultServiceName : String := "default"

/-- a field of the service with this name, empty if it is not there -/
def currentField (e : Editor) (name : String) (field : Service → Option String) : String :=
  ((e.context.find? name).bind field).getD ""

/-- a text without the blanks at its ends, if anything is left -/
def nonBlank (s : String) : Option String :=
  let t := Text.trim s
  if t.isEmpty then none else some t

/-! ### requests -/

/-- the request of a turn; the context is stored under the name `file` -/
def Turn.request (file : String) (t : Turn) : Request :=
  let e := t.editor
  match t.point with
  | .menu => .select "What would you like to do?" (MenuEntry.all.map (·.label)) 4
  | .help => .say e.helpText
  | .recovery => .say e.helpText
  | .listing => .say e.listing
  | .noServices => .say Editor.noServices
  | .newName => .input "What is the name of your service?" defaultServiceName
  | .saveNew => .write file (Document.write e.context)
  | .service =>
    .select "Which service do you want to manage?"
      (e.context.serviceNames ++ [ServiceAction.back.label]) 0
  | .action name =>
    .select ("What would you like to change on " ++ name ++ "?") (ServiceAction.all.map (·.label)) 3
  | .stereotype name =>
    .input "Stereotype (empty to clear)" (currentField e name (·.stereotype))
  | .kind name => .input "Type (empty to clear)" (currentField e name (·.kind))
  | .associationKind _ => .select "Association type" (AssociationKind.known.map (·.label)) 0
  | .target _ _ => .input "Target type" ""
  | .noTarget _ => .say "An association needs a target type."
  | .label _ _ => .input "Label" ""
  | .localEnd _ _ => .input "Local multiplicity" "1"
  | .remoteEnd _ _ _ => .input "Remote multiplicity" "0..*"
  | .saveEdit _ => .write file (Document.write e.context)

/-! ### what follows -/

def goTo (e : Editor) (p : Point) : Step Turn Result := .next ⟨e, p⟩

def proceed (e : Editor) : Step Turn Result := .done ⟨e, .ok .proceed⟩

def leave (e : Editor) : Step Turn Result := .done ⟨e, .ok .exit⟩

def start (e : Editor) : Step Turn Result :=
  match e.state with
  | .main => goTo e .menu
  | .closed => leave e
  | _ => goTo e .recovery

def afterMenu (e : Editor) (choice : Nat) : Step Turn Result :=
  let e := e.step (MenuEntry.all[choice]?.getD .help)
  match e.state with
  | .closed => leave e
  | .main => goTo e .help
  | .listing => goTo e .listing
  | .adding => goTo e .newName
  | .managing => goTo e (if e.context.services.isEmpty then .noServices else .service)

/-- after the choice of a service; the last choice is to go back -/
def afterService (e : Editor) (choice : Nat) : Step Turn Result :=
  match e.context.serviceNames[choice]? with
  | some name => goTo e (.action name)
  | none => proceed e.returnToMain

def afterAction (e : Editor) (name : String) (choice : Nat) : Step Turn Result :=
  match ServiceAction.all[choice]?.getD .back with
  | .addAssociation => goTo e (.associationKind name)
  | .setStereotype => goTo e (.stereotype name)
  | .setKind => goTo e (.kind name)
  | .back => proceed e.returnToMain

/-- after an edit of a service: it is saved if it changed anything -/
def afterEdit (name : String) (edited : Bool × Editor) : Step Turn Result :=
  goTo edited.2 (if edited.1 then .saveEdit name else .action name)

def afterAssociationKind (e : Editor) (name : String) (choice : Nat) : Step Turn Result :=
  match AssociationKind.known[choice]? with
  | some kind => goTo e (.target name kind)
  | none => goTo e (.action name)

def afterTarget (e : Editor) (name : String) (kind : AssociationKind) (answer : String) :
    Step Turn Result :=
  match nonBlank answer with
  | none => goTo e (.noTarget name)
  | some target =>
    let a := Association.new kind target
    if kind.usesText then goTo e (.label name a)
    else if kind.usesMultiplicity then goTo e (.localEnd name a)
    else afterEdit name (e.addAssociation name a)

def afterLabel (e : Editor) (name : String) (a : Association) (answer : String) : Step Turn Result :=
  let a := { a with text := some answer }
  if a.kind.usesMultiplicity then goTo e (.localEnd name a)
  else afterEdit name (e.addAssociation name a)

/-- after the last answer for an association with multiplicities -/
def afterRemote (e : Editor) (name : String) (a : Association) (localEnd remoteEnd : String) :
    Step Turn Result :=
  afterEdit name
    (e.addAssociation name
      { a with localMultiplicity := some localEnd, remoteMultiplicity := some remoteEnd })

def afterAnswer (file : String) (e : Editor) :
    (p : Point) → (Turn.request file ⟨e, p⟩).Answer → Step Turn Result
  | .menu, choice => afterMenu e choice
  | .help, _ => proceed e
  | .recovery, _ => proceed e.returnToMain
  | .listing, _ => proceed e.returnToMain
  | .noServices, _ => proceed e.returnToMain
  | .newName, name => goTo (e.addService name).2 .saveNew
  | .saveNew, _ => proceed e
  | .service, choice => afterService e choice
  | .action name, choice => afterAction e name choice
  | .stereotype name, answer => afterEdit name (e.setStereotype name (nonBlank answer))
  | .kind name, answer => afterEdit name (e.setKind name (nonBlank answer))
  | .associationKind name, choice => afterAssociationKind e name choice
  | .target name kind, answer => afterTarget e name kind answer
  | .noTarget name, _ => goTo e (.action name)
  | .label name a, answer => afterLabel e name a answer
  | .localEnd name a, answer => goTo e (.remoteEnd name a answer)
  | .remoteEnd name a localEnd, answer => afterRemote e name a localEnd answer
  | .saveEdit name, _ => goTo e (.action name)

/-- after a reply; a fault ends the turn where it stands -/
def Turn.resume (file : String) (t : Turn) : (t.request file).Reply → Step Turn Result
  | .ok answer => afterAnswer file t.editor t.point answer
  | .error fault => .done ⟨t.editor, .error fault⟩

end ServiceDiagram.Session
