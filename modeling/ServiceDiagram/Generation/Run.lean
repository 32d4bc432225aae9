import ServiceDiagram.Generation.Phase

/-!
# Running a generation

A run in given surroundings, interactive or in a batch.
-/

namespace ServiceDiagram.Generation

variable {π σ φ : Type}

/-- a run, if at most `fuel` requests lead to its end -/
def run? (surroundings : Surroundings π σ φ) (s : Settings) (interactive : Bool) (fuel : Nat)
    (w : World π σ φ) : Option (Except Fault Output × World π σ φ) :=
  surroundings.run (Phase.request s) (Phase.resume s) fuel (.next (.loading interactive)) w

end ServiceDiagram.Generation
