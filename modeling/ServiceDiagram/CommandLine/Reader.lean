/-!
# Command lines

An option has a long name and perhaps a letter, and is a switch, takes a value, or asks for help.  The
reader takes one argument after the other (`State.take`):

* `--name`, `--name=value`   an option by its name;
* `-abc`   switches by their letters, of which the last may be an option with its value behind it;
* `--`     after this there are no options any more.

An option still waits for its value when the next argument comes, and what it got is looked at when
the next option comes or at the end (`State.settle`).
-/

namespace ServiceDiagram.CommandLine

/-! ### options -/

inductive Purpose where
  | switch
  | value
  | help
  deriving DecidableEq

/-- an option with the key under which it is found later -/
structure Flag (κ : Type) where
  key : κ
  letter : Option Char
  name : String
  purpose : Purpose

/-- why a command line is turned down -/
inductive Refusal where
  /-- an option that there is not, or an argument that belongs to no option -/
  | unknown
  /-- an option without its value -/
  | noValue
  /-- a value for an option that takes none -/
  | unwantedValue
  /-- an option given twice -/
  | repeated
  /-- help is asked for -/
  | help
  deriving DecidableEq, Repr

variable {κ : Type} [DecidableEq κ]

/-! ### reading -/

structure State (κ : Type) where
  /-- options with their values; a switch has the empty one -/
  given : List (κ × String)
  /-- the last option with a value of its own argument, if that has come -/
  waiting : Option (κ × Option String)
  /-- whether there are options no more -/
  ended : Bool

namespace State

def start : State κ := ⟨[], none, false⟩

def give (s : State κ) (key : κ) (value : String) : Except Refusal (State κ) :=
  if s.given.any fun g => g.1 = key then .error .repeated
  else .ok { s with given := s.given ++ [(key, value)] }

/-- the option that waits is given -/
def settle (s : State κ) : Except Refusal (State κ) :=
  match s.waiting with
  | none => .ok s
  | some (_, none) => .error .noValue
  | some (key, some value) => { s with waiting := none }.give key value

/-- an option without a value behind its name -/
def openFlag (s : State κ) (f : Flag κ) : Except Refusal (State κ) := do
  let s ← s.settle
  match f.purpose with
  | .switch => s.give f.key ""
  | .value => return { s with waiting := some (f.key, none) }
  | .help => throw .help

/-- an option by its name, and perhaps a value behind that -/
def takeName (s : State κ) (flags : List (Flag κ)) (name : String) (value : Option String) :
    Except Refusal (State κ) :=
  match flags.find? (·.name = name), value with
  | none, _ => .error .unknown
  | some f, none => s.openFlag f
  | some f, some value =>
    if f.purpose = .value then do
      let s ← s.settle
      s.give f.key value
    else .error .unwantedValue

/-- an equals sign between a letter and a value does not belong to the value -/
def dropEquals : List Char → List Char
  | '=' :: cs => cs
  | cs => cs

def takeLetters (flags : List (Flag κ)) : List Char → State κ → Except Refusal (State κ)
  | [], s => .ok s
  | c :: rest, s =>
    match flags.find? (·.letter = some c) with
    | none => .error .unknown
    | some f => do
      if f.purpose = .value ∧ rest ≠ [] then
        let s ← s.settle
        s.give f.key (String.ofList (dropEquals rest))
      else
        takeLetters flags rest (← s.openFlag f)

def takeWord (s : State κ) (arg : String) : Except Refusal (State κ) :=
  match s.ended, s.waiting with
  | false, some (key, none) => .ok { s with waiting := some (key, some arg) }
  | _, _ => .error .unknown

/-- the name of an option, and the value behind the first equals sign -/
def splitEquals (cs : List Char) : String × Option String :=
  match cs.dropWhile (· != '=') with
  | [] => (String.ofList cs, none)
  | _ :: value => (String.ofList (cs.takeWhile (· != '=')), some (String.ofList value))

def take (flags : List (Flag κ)) (s : State κ) (arg : String) : Except Refusal (State κ) :=
  if s.ended then s.takeWord arg
  else match arg.toList with
    | ['-', '-'] => .ok { s with ended := true }
    | '-' :: '-' :: cs => s.takeName flags (splitEquals cs).1 (splitEquals cs).2
    | '-' :: c :: cs => takeLetters flags (c :: cs) s
    | _ => s.takeWord arg

end State

/-- the options that are given, in their order -/
def read (flags : List (Flag κ)) (args : List String) : Except Refusal (List (κ × String)) := do
  let s ← args.foldlM (State.take flags) .start
  return (← s.settle).given

end ServiceDiagram.CommandLine
