import ServiceDiagram.Session.Turn
import ServiceDiagram.Settings.Basic

/-!
# Generation

A run reads the stored context, or asks for a new one, lets the user edit it, and writes the diagram,
the document and, if it is to be downloaded, the drawing.  A batch run only writes.  Like a turn of a
session, a run goes from phase to phase, with one request each.

* `Phase.request`, `Phase.resume`   the request of a phase, and what follows;
* `Output`   what a run that ends well has made.
-/

namespace ServiceDiagram.Generation

inductive Phase where
  | loading (interactive : Bool)
  /-- asking for a new context, and storing it -/
  | welcome
  | naming
  | framework (name : String)
  | storing (c : Context)
  /-- a turn of the session -/
  | editing (turn : Session.Turn)
  /-- writing the diagram and the document -/
  | drawing (c : Context)
  | keeping (c : Context)
  /-- downloading the drawing and writing it -/
  | fetching (c : Context)
  | picturing (c : Context) (image : Bytes)

structure Output where
  context : Context
  diagram : String
  url : String
  diagramFile : String
  imageFile : Option String

/-- a context name as the start of a file name -/
def fileStem (name : String) : String :=
  String.ofList (name.toList.map fun c =>
    if c = '/' ∨ c = '\\' ∨ c = ':' ∨ c = '\x00' then '_' else c)

def imageFile (s : Settings) (c : Context) : String :=
  fileStem c.name ++ "." ++ s.variant.extension

def url (s : Settings) (c : Context) : String := Link.url s.server s.variant c.diagram

/-- what a run has made when it ends well -/
def output (s : Settings) (c : Context) : Output :=
  ⟨c, c.diagram, url s c, s.diagramFile, if s.download then some (imageFile s c) else none⟩

/-! ### requests -/

def Phase.request (s : Settings) : Phase → Request
  | .loading _ => .read s.dataFile
  | .welcome => .say "Welcome to the Service Definition Model generator!"
  | .naming => .input "What is the name of your service context?" Context.defaultName
  | .framework _ =>
    .select "What is the Framework for your Service?" (Framework.all.map (·.label)) 0
  | .storing c => .write s.dataFile (Document.write c)
  | .editing turn => turn.request s.dataFile
  | .drawing c => .write s.diagramFile (Text.encode c.diagram)
  | .keeping c => .write s.dataFile (Document.write c)
  | .fetching c => .fetch (url s c)
  | .picturing c image => .write (imageFile s c) image

/-! ### what follows -/

/-- a run that goes on, or its end -/
abbrev Progress := Step Phase (Except Fault Output)

/-- after a step of the session: it goes on, the next turn begins, or the editing is over -/
def afterTurn : Step Session.Turn Session.Result → Progress
  | .next turn => .next (.editing turn)
  | .done ⟨_, .error fault⟩ => .done (.error fault)
  | .done ⟨e, .ok .exit⟩ => .next (.drawing e.context)
  | .done ⟨e, .ok .proceed⟩ =>
    match Session.start e with
    | .next turn => .next (.editing turn)
    | .done result => .next (.drawing result.editor.context)

def edit (c : Context) : Progress := afterTurn (Session.start (.new c))

/-- after the document was read, or not found -/
def afterLoading (s : Settings) (interactive : Bool) (content : Except Fault Bytes) : Progress :=
  match Store.loaded content with
  | .error fault => .done (.error fault)
  | .ok (some c) => if interactive then edit c else .next (.drawing c)
  | .ok none => if interactive then .next .welcome else .done (.error (.missing s.dataFile))

/-- after an answer in a phase other than the first -/
def afterAnswer (s : Settings) : (p : Phase) → (p.request s).Answer → Progress
  | .loading interactive, content => afterLoading s interactive (.ok content)
  | .welcome, _ => .next .naming
  | .naming, name => .next (.framework name)
  | .framework name, choice =>
    .next (.storing (.new name (Framework.all.getD choice .grpc)))
  | .storing c, _ => edit c
  | .editing turn, answer => afterTurn (turn.resume s.dataFile (.ok answer))
  | .drawing c, _ => .next (.keeping c)
  | .keeping c, _ => if s.download then .next (.fetching c) else .done (.ok (output s c))
  | .fetching c, image => .next (.picturing c image)
  | .picturing c _, _ => .done (.ok (output s c))

/-- after a reply; only the first phase goes on after a fault -/
def Phase.resume (s : Settings) (p : Phase) : (p.request s).Reply → Progress
  | .ok answer => afterAnswer s p answer
  | .error fault =>
    match p with
    | .loading interactive => afterLoading s interactive (.error fault)
    | .editing turn => afterTurn (turn.resume s.dataFile (.error fault))
    | _ => .done (.error fault)

end ServiceDiagram.Generation
