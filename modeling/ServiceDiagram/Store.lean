import ServiceDiagram.Document.Reader
import ServiceDiagram.Document.Writer
import ServiceDiagram.Surroundings.World

/-!
# The stored document

A store keeps one context as a document under a file name.  No file means no context yet; a file
that is not a document is a fault, so it is never taken for a missing one.
-/

namespace ServiceDiagram.Store

/-- the context in what reading the file gave -/
def loaded : Except Fault Bytes → Except Fault (Option Context)
  | .ok content =>
    match Document.read content with
    | .ok c => .ok (some c)
    | .error cause => .error (.document cause)
  | .error (.access .notFound _) => .ok none
  | .error fault => .error fault

variable {σ : Type}

def load (storage : Storage σ) (file : String) (files : σ) : Except Fault (Option Context) × σ :=
  let (content, files) := storage.read file files
  (loaded content, files)

def save (storage : Storage σ) (file : String) (c : Context) (files : σ) : Except Fault Unit × σ :=
  storage.write file (Document.write c) files

end ServiceDiagram.Store
