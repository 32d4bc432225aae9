import ServiceDiagram.Editor
import ServiceDiagram.Store

/-!
# Sessions at the menu

A session is a sequence of turns at the main menu.  A turn goes from point to point; at each point one
request is made, and `resume` says what its reply leads to.  Every edit leads to a point that saves the
context before anything else is asked.

* `Turn.start`   the first point of a turn;
* `Point.request`, `Turn.resume`   the request of a point, and what follows;
* a turn ends with an editor and either the word to continue or to exit, or a fault.
-/

namespace ServiceDiagram

namespace Session

/-- where a turn stands -/
inductive Point where
  /-- choosing from the main menu -/
  | menu
  /-- saying the help of the current state, at the main menu or after a turn that failed -/
  | help
  | recovery
  /-- saying all services, or that there are none to manage -/
  | listing
  | noServices
  /-- asking for a new service, and saving it -/
  | newName
  | saveNew
  /-- choosing a service, and what to do with it -/
  | service
  | action (name : String)
  /-- asking for a field of a service -/
  | stereotype (name : String)
  | kind (name : String)
  /-- asking for the parts of an association -/
  | associationKind (name : String)
  | target (name : String) (kind : AssociationKind)
  | noTarget (name : String)
  | label (name : String) (a : Association)
  | localEnd (name : String) (a : Association)
  | remoteEnd (name : String) (a : Association) (localEnd : String)
  /-- saving a service that was edited -/
  | saveEdit (name : String)

/-- what the end of a turn says about the session -/
inductive Flow where
  | proceed
  | exit
  deriving DecidableEq, Repr

structure Result where
  editor : Editor
  flow : Except Fault Flow

structure Turn where
  editor : Editor
  point : Point

end Session

end ServiceDiagram
