/-!
# Runs of characters

Tables of characters list the runs of code points that they have.
-/

namespace ServiceDiagram.Text

/-- a character of one of the runs, each given by its first and last code point -/
def inRuns (runs : List (Nat × Nat)) (c : Char) : Bool :=
  runs.any fun r => r.1 ≤ c.toNat && c.toNat ≤ r.2

end ServiceDiagram.Text
