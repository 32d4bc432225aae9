import ServiceDiagram.Fault

/-!
# Requests

All that the program asks of its surroundings: questions and messages to the user, reading and
writing files, and fetching a drawing.  Every request can fail; `Reply` is the fault or the answer.
-/

namespace ServiceDiagram

inductive Request where
  /-- a free text; an empty answer means the default -/
  | input (message default : String)
  /-- one of several choices, as its position -/
  | select (message : String) (choices : List String) (default : Nat)
  | say (text : String)
  | read (name : String)
  | write (name : String) (content : Bytes)
  | fetch (url : String)

namespace Request

/-- what a request gives if it does not fail -/
abbrev Answer : Request → Type
  | .input _ _ => String
  | .select _ _ _ => Nat
  | .say _ => Unit
  | .read _ => Bytes
  | .write _ _ => Unit
  | .fetch _ => Bytes

/-- what comes back for a request -/
abbrev Reply (r : Request) : Type := Except Fault r.Answer

end Request

/-- one step of an activity: it goes on from a state, or it is over -/
inductive Step (σ α : Type) where
  | next (state : σ)
  | done (result : α)

end ServiceDiagram
