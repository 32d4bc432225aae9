import ServiceDiagram.Surroundings.World
import ServiceDiagram.Text.Blank

/-!
# The terminal

Questions are written to a transcript and each answer is a line.  A choice is given by its number or
by its label in either case; a line that is neither is answered with a complaint, and the question is
asked again.
-/

namespace ServiceDiagram

inductive Shown where
  /-- a question, with the default behind it -/
  | question (message default : String)
  /-- a question with numbered choices, of which the default is marked -/
  | menu (message : String) (choices : List String) (default : Nat)
  /-- what is said to a line that is none of the choices -/
  | complaint
  | note (text : String)
  deriving DecidableEq, Repr

/-- the lines that are still to be read, each with its line feed, and what was shown so far -/
structure Terminal where
  lines : List Bytes
  shown : List Shown

/-! ### what is shown -/

namespace Shown

def questionText (message default : String) : String :=
  if default.isEmpty then "? " ++ message ++ " " else "? " ++ message ++ " (" ++ default ++ ") "

def choiceLine (default : Nat) (choice : String × Nat) : String :=
  (if choice.2 = default then ">" else " ") ++ " " ++ toString (choice.2 + 1) ++ ") " ++ choice.1 ++
    "\n"

def menuText (message : String) (choices : List String) (default : Nat) : String :=
  "? " ++ message ++ "\n" ++ String.join (choices.zipIdx.map (choiceLine default)) ++ "  Answer: "

def text : Shown → String
  | .question message default => questionText message default
  | .menu message choices default => menuText message choices default
  | .complaint => "Please choose one of the listed options.\n"
  | .note text => text ++ "\n"

def isQuestion : Shown → Bool
  | .question _ _ | .menu _ _ _ => true
  | _ => false

end Shown

namespace Terminal

def transcript (t : Terminal) : String := String.join (t.shown.map Shown.text)

/-! ### lines -/

/-- bytes cut behind each line feed; `line` holds the current line, last byte first -/
def cutLines (line : Bytes) : Bytes → List Bytes
  | [] => if line.isEmpty then [] else [line.reverse]
  | b :: rest =>
    if b = 0x0a then (b :: line).reverse :: cutLines [] rest else cutLines (b :: line) rest

def new (input : Bytes) : Terminal := ⟨cutLines [] input, []⟩

def answer? (line : Bytes) : Option String := (Text.decode? line).map Text.trim

/-- the fault of a question behind the last line -/
def noAnswer : Fault := .prompt "input closed before an answer was given"

/-- the fault of a line that is not a text -/
def noText : Fault := .access .other "stream did not contain valid UTF-8"

/-! ### questions -/

def input (message default : String) (t : Terminal) : Except Fault String × Terminal :=
  let shown := t.shown ++ [.question message default]
  match t.lines with
  | [] => (.error noAnswer, ⟨[], shown⟩)
  | line :: rest =>
    match answer? line with
    | none => (.error noText, ⟨rest, shown⟩)
    | some answer => (.ok (if answer.isEmpty then default else answer), ⟨rest, shown⟩)

/-! ### choices -/

/-- a number with one more decimal digit -/
def appendDigit? (n : Nat) (c : Char) : Option Nat :=
  if c.isDigit then some (10 * n + (c.toNat - 48)) else none

/-- the number that some decimal digits spell, below `2 ^ 64` -/
def decimal? (digits : List Char) : Option Nat :=
  if digits.isEmpty then none else (digits.foldlM appendDigit? 0).filter (· < UInt64.size)

/-- the number that a text spells, a plus in front or not -/
def number? (s : String) : Option Nat :=
  match s.toList with
  | '+' :: digits => decimal? digits
  | digits => decimal? digits

/-- the same text but for the case of ASCII letters -/
def sameLabel (s t : String) : Bool := s.toList.map Char.toLower == t.toList.map Char.toLower

def numbered? (choices : List String) (answer : String) : Option Nat :=
  match number? answer with
  | some n => if 1 ≤ n ∧ n ≤ choices.length then some (n - 1) else none
  | none => none

/-- the choice that an answer means: the default, a number, or the first label that is the same -/
def choice? (choices : List String) (default : Nat) (answer : String) : Option Nat :=
  if answer.isEmpty then some default
  else (numbered? choices answer).or (choices.findIdx? (sameLabel · answer))

/-- what a line settles of a choice: a line that is no text ends it with a fault, and one that means
none of the choices leaves it open -/
def settle? (choices : List String) (default : Nat) (line : Bytes) : Option (Except Fault Nat) :=
  match answer? line with
  | none => some (.error noText)
  | some answer => (choice? choices default answer).map .ok

/-- asks until a line settles the choice -/
def selectFrom (message : String) (choices : List String) (default : Nat) :
    List Bytes → List Shown → Except Fault Nat × Terminal
  | [], shown => (.error noAnswer, ⟨[], shown ++ [.menu message choices default]⟩)
  | line :: rest, shown =>
    let shown := shown ++ [.menu message choices default]
    match settle? choices default line with
    | some result => (result, ⟨rest, shown⟩)
    | none => selectFrom message choices default rest (shown ++ [.complaint])

def select (message : String) (choices : List String) (default : Nat) (t : Terminal) :
    Except Fault Nat × Terminal :=
  selectFrom message choices default t.lines t.shown

def say (text : String) (t : Terminal) : Except Fault Unit × Terminal :=
  (.ok (), { t with shown := t.shown ++ [.note text] })

def prompter : Prompter Terminal := ⟨input, select, say⟩

/-- a number of requests that no run exceeds: each line is read by a question, and between two questions
there is at most one request that reads no line -/
def fuel (t : Terminal) : Nat := 3 * t.lines.length + 16

end Terminal

end ServiceDiagram
