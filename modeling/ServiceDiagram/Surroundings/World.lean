import ServiceDiagram.Surroundings.Request

/-!
# Surroundings

Someone who answers questions, a place for files, and a server that draws.  Each is a state with
operations that change it, and may answer or fail as they please.  `run` lets an activity, given by the
request of each state and what follows a reply, make its requests one after the other.
-/

namespace ServiceDiagram

structure Prompter (π : Type) where
  input : String → String → π → Except Fault String × π
  select : String → List String → Nat → π → Except Fault Nat × π
  say : String → π → Except Fault Unit × π

structure Storage (σ : Type) where
  read : String → σ → Except Fault Bytes × σ
  write : String → Bytes → σ → Except Fault Unit × σ

structure Fetcher (φ : Type) where
  fetch : String → φ → Except Fault Bytes × φ

structure Surroundings (π σ φ : Type) where
  prompter : Prompter π
  storage : Storage σ
  fetcher : Fetcher φ

/-- the states of the three -/
structure World (π σ φ : Type) where
  user : π
  files : σ
  server : φ

namespace Surroundings

variable {π σ φ : Type}

def reply (s : Surroundings π σ φ) (w : World π σ φ) : (r : Request) → r.Reply × World π σ φ
  | .input message default =>
    let (a, user) := s.prompter.input message default w.user
    (a, { w with user := user })
  | .select message choices default =>
    let (a, user) := s.prompter.select message choices default w.user
    (a, { w with user := user })
  | .say text =>
    let (a, user) := s.prompter.say text w.user
    (a, { w with user := user })
  | .read name =>
    let (a, files) := s.storage.read name w.files
    (a, { w with files := files })
  | .write name content =>
    let (a, files) := s.storage.write name content w.files
    (a, { w with files := files })
  | .fetch url =>
    let (a, server) := s.fetcher.fetch url w.server
    (a, { w with server := server })

variable {α β : Type}

/-- the result of an activity and the world after it, if at most `fuel` requests lead to it -/
def run (s : Surroundings π σ φ) (request : α → Request)
    (resume : (state : α) → (request state).Reply → Step α β) :
    Nat → Step α β → World π σ φ → Option (β × World π σ φ)
  | _, .done result, w => some (result, w)
  | 0, .next _, _ => none
  | fuel + 1, .next state, w =>
    let (reply, w) := s.reply w (request state)
    s.run request resume fuel (resume state reply) w

end Surroundings

end ServiceDiagram
