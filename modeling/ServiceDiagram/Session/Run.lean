import ServiceDiagram.Session.Turn

/-!
# Running a session

Turns in given surroundings, one after the other.
-/

namespace ServiceDiagram.Session

variable {π σ φ : Type}

/-- one turn, if at most `fuel` requests lead to its end -/
def turn? (s : Surroundings π σ φ) (file : String) (fuel : Nat) (e : Editor) (w : World π σ φ) :
    Option (Result × World π σ φ) :=
  s.run (Turn.request file) (Turn.resume file) fuel (start e) w

/-- the ends of at most `count` turns and the world after them; a fault ends the session, and closing it
leaves `extra` more turns -/
def turns (s : Surroundings π σ φ) (file : String) (fuel : Nat) :
    Nat → Nat → Editor → World π σ φ → List (Except Fault Flow) × Editor × World π σ φ
  | 0, _, e, w => ([], e, w)
  | count + 1, extra, e, w =>
    match turn? s file fuel e w with
    | none => ([], e, w)
    | some (⟨e, .error fault⟩, w) => ([.error fault], e, w)
    | some (⟨e, .ok .proceed⟩, w) =>
      let (ends, e, w) := turns s file fuel count extra e w
      (.ok .proceed :: ends, e, w)
    | some (⟨e, .ok .exit⟩, w) =>
      let (ends, e, w) := turns s file fuel (min count extra) (extra - 1) e w
      (.ok .exit :: ends, e, w)

end ServiceDiagram.Session
