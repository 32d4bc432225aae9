import ServiceDiagram.Diagram
import ServiceDiagram.Text.Lines

/-!
# The editor

An editor holds a context and the state of the menu.  Entries of the menu move it from one state to
another, `closed` is never left, and edits change one service by its name.
-/

namespace ServiceDiagram

inductive MenuEntry where
  | listServices
  | addService
  | manageService
  | exit
  | help
  deriving DecidableEq, Repr

namespace MenuEntry

def all : List MenuEntry := [.listServices, .addService, .manageService, .exit, .help]

def label : MenuEntry → String
  | .listServices => "List Services"
  | .addService => "Add Service"
  | .manageService => "Manage Service"
  | .exit => "Exit"
  | .help => "Help"

end MenuEntry

inductive MenuState where
  | main
  | listing
  | adding
  | managing
  | closed
  deriving DecidableEq, Repr

inductive ServiceAction where
  | addAssociation
  | setStereotype
  | setKind
  | back
  deriving DecidableEq, Repr

namespace ServiceAction

def all : List ServiceAction := [.addAssociation, .setStereotype, .setKind, .back]

def label : ServiceAction → String
  | .addAssociation => "Add Association"
  | .setStereotype => "Set Stereotype"
  | .setKind => "Set Type"
  | .back => "Back"

end ServiceAction

structure Editor where
  context : Context
  state : MenuState
  deriving DecidableEq

namespace Editor

/-- an editor at the main menu -/
def new (c : Context) : Editor := ⟨c, .main⟩

/-! ### the menu -/

def step (e : Editor) (entry : MenuEntry) : Editor :=
  if e.state = .closed then e
  else match entry with
    | .help => e
    | .exit => { e with state := .closed }
    | .listServices => { e with state := .listing }
    | .addService => { e with state := .adding }
    | .manageService => { e with state := .managing }

/-- the editor back at the main menu, unless it is closed -/
def returnToMain (e : Editor) : Editor := if e.state = .closed then e else { e with state := .main }

/-! ### edits: each says whether it changed the context -/

/-- one more service, unless its name is taken; either way the editor is back at the main menu -/
def addService (e : Editor) (name : String) : Bool × Editor :=
  match e.context.add? (.new name) with
  | some c => (true, { e with context := c }.returnToMain)
  | none => (false, e.returnToMain)

/-- the first service of a name changed, if there is one -/
def edit (e : Editor) (name : String) (f : Service → Service) : Bool × Editor :=
  match e.context.change? name f with
  | some c => (true, { e with context := c })
  | none => (false, e)

def addAssociation (e : Editor) (name : String) (a : Association) : Bool × Editor :=
  e.edit name (·.associate a)

def setStereotype (e : Editor) (name : String) (value : Option String) : Bool × Editor :=
  e.edit name fun s => { s with stereotype := value }

def setKind (e : Editor) (name : String) (value : Option String) : Bool × Editor :=
  e.edit name fun s => { s with kind := value }

/-! ### texts -/

def helpText (e : Editor) : String :=
  match e.state with
  | .main =>
    "List Services shows the modeled services.\n" ++
      "Add Service creates a service (existing names are kept as they are).\n" ++
      "Manage Service edits associations, stereotype and type of a service.\n" ++
      "Exit ends editing and generates the diagram."
  | .listing => "Services are shown in the order they were added."
  | .adding => "Enter a name that is not used by another service."
  | .managing =>
    "Associations: directed, contains, aggregation, implements, extends.\n" ++
      "Only directed and aggregation carry a label; aggregation also has multiplicities."
  | .closed => "Editing finished."

/-- what is said where there is nothing to show or to manage -/
def noServices : String := "No services defined yet."

def serviceLines (s : Service) : List String :=
  ("- " ++ s.name ++ (s.kind.map fun k => " [" ++ k ++ "]").getD "" ++
      (s.stereotype.map fun st => " << " ++ st ++ " >>").getD "") ::
    (Text.lines (unlines s.associationLines)).map ("    " ++ ·)

def listing (e : Editor) : String :=
  if e.context.services.isEmpty then noServices
  else unlines (e.context.services.flatMap serviceLines)

end Editor

end ServiceDiagram
