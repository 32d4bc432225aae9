import ServiceDiagram.Surroundings.World

/-!
# Rendering servers

A server that gives the same answer to every link, and one that cannot be reached.  Both keep the
links that were fetched.
-/

namespace ServiceDiagram

structure Fetched where
  urls : List String

namespace Fetched

def none : Fetched := ⟨[]⟩

def note (f : Fetched) (url : String) : Fetched := ⟨f.urls ++ [url]⟩

/-- a server with one answer; only the status 200 comes with a drawing -/
def answering (status : Nat) (body : Bytes) : Fetcher Fetched where
  fetch url f := (if status = 200 then .ok body else .error (.refused url status), f.note url)

def unreachable : Fetcher Fetched where
  fetch url f := (.error (.unreachable ("error sending request for url (" ++ url ++ ")")), f.note url)

end Fetched

end ServiceDiagram
