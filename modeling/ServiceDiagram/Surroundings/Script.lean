import ServiceDiagram.Surroundings.World

/-!
# Scripted answers

A prompter that hands over given answers as they are, one per question, and keeps what it was asked.
-/

namespace ServiceDiagram

namespace Script

inductive Answer where
  | text (s : String)
  | position (n : Nat)

end Script

structure Script where
  answers : List Script.Answer
  asked : List Request

namespace Script

def new (answers : List Answer) : Script := ⟨answers, []⟩

def exhausted : Fault := .prompt "script exhausted"

def otherAnswer : Fault := .prompt "script mismatch"

def note (s : Script) (r : Request) : Script := { s with asked := s.asked ++ [r] }

def input (message default : String) (s : Script) : Except Fault String × Script :=
  let s := s.note (.input message default)
  match s.answers with
  | [] => (.error exhausted, s)
  | .text t :: rest => (.ok t, { s with answers := rest })
  | .position _ :: rest => (.error otherAnswer, { s with answers := rest })

def select (message : String) (choices : List String) (default : Nat) (s : Script) :
    Except Fault Nat × Script :=
  let s := s.note (.select message choices default)
  match s.answers with
  | [] => (.error exhausted, s)
  | .position n :: rest => (.ok n, { s with answers := rest })
  | .text _ :: rest => (.error otherAnswer, { s with answers := rest })

def say (text : String) (s : Script) : Except Fault Unit × Script := (.ok (), s.note (.say text))

def prompter : Prompter Script := ⟨input, select, say⟩

/-- a number of requests that no turn exceeds -/
def fuel (s : Script) : Nat := 3 * s.answers.length + 16

end Script

end ServiceDiagram
