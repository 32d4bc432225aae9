import ServiceDiagram.Surroundings.Path
import ServiceDiagram.Surroundings.World

/-!
# Files on a disk

A tree of directories and files, given by the full names of all that is in it.  A name is found step
by step, and each step needs a directory to be taken in.  A storage on a disk keeps its files below a
base and makes the directories that a file needs.
-/

namespace ServiceDiagram

structure Disk where
  /-- contents by full names; directories have none -/
  entries : List (List String × Option Bytes)

namespace Disk

/-! ### troubles -/

/-- why a file cannot be reached -/
inductive Trouble where
  | missing
  | notDirectory
  | isDirectory
  | taken
  | tooLong
  | nul
  deriving DecidableEq, Repr

def Trouble.text : Trouble → String
  | .missing => "No such file or directory (os error 2)"
  | .notDirectory => "Not a directory (os error 20)"
  | .isDirectory => "Is a directory (os error 21)"
  | .taken => "File exists (os error 17)"
  | .tooLong => "File name too long (os error 36)"
  | .nul => "file name contained an unexpected NUL byte"

def Trouble.kind : Trouble → AccessKind
  | .missing => .notFound
  | _ => .other

def Trouble.fault (t : Trouble) : Fault := .access t.kind t.text

/-! ### finding -/

/-- what a full name stands for -/
inductive Node where
  | directory
  | file (content : Bytes)

def empty : Disk := ⟨[]⟩

def node? (d : Disk) (names : List String) : Option Node :=
  if names.isEmpty then some .directory
  else (d.entries.lookup names).map fun
    | none => .directory
    | some content => .file content

def isDirectory (d : Disk) (names : List String) : Bool :=
  match d.node? names with
  | some .directory => true
  | _ => false

def isTooLong (name : String) : Bool := 255 < name.utf8ByteSize

def isDots (name : String) : Bool := name == "." || name == ".."

def step (d : Disk) (place : List String) (name : String) : Except Trouble (List String) :=
  if !d.isDirectory place then .error .notDirectory
  else if name = "." then .ok place
  else if name = ".." then .ok place.dropLast
  else if isTooLong name then .error .tooLong
  else if (d.node? (place ++ [name])).isSome then .ok (place ++ [name])
  else .error .missing

def walk (d : Disk) (names : List String) : Except Trouble (List String) := names.foldlM d.step []

/-- the directory to which names lead -/
def enter (d : Disk) (names : List String) : Except Trouble (List String) := do
  let place ← d.walk names
  if d.isDirectory place then return place else throw .notDirectory

/-- names that lead to a directory -/
def leadsToDirectory (d : Disk) (names : List String) : Bool := (d.enter names).toBool

/-! ### reading -/

def content (d : Disk) (p : Path) : Except Trouble Bytes := do
  if p.names.isEmpty ∧ !p.absolute then throw .missing
  let place ← d.walk p.names
  match d.node? place with
  | some (.file bytes) => if p.closed then throw .notDirectory else return bytes
  | _ => throw .isDirectory

/-! ### writing -/

def put (d : Disk) (names : List String) (entry : Option Bytes) : Disk :=
  if d.entries.any fun e => e.1 = names then
    ⟨d.entries.map fun e => if e.1 = names then (names, entry) else e⟩
  else ⟨d.entries ++ [(names, entry)]⟩

def makeDirectory (d : Disk) (outer : List String) (name : String) : Except Trouble Disk := do
  let place ← d.enter outer
  if isDots name then throw .taken
  if isTooLong name then throw .tooLong
  if (d.node? (place ++ [name])).isSome then throw .taken
  return d.put (place ++ [name]) none

/-- the directories that names lead through, the last name first; some may be made before it fails -/
def makeDirectories (d : Disk) : List String → Except Trouble Unit × Disk
  | [] => (.ok (), d)
  | name :: outer =>
    let settle (d : Disk) (t : Trouble) : Except Trouble Unit × Disk :=
      (if d.leadsToDirectory (name :: outer).reverse then .ok () else .error t, d)
    match d.makeDirectory outer.reverse name with
    | .ok d => (.ok (), d)
    | .error .missing =>
      match makeDirectories d outer with
      | (.error t, d) => (.error t, d)
      | (.ok (), d) =>
        match d.makeDirectory outer.reverse name with
        | .ok d => (.ok (), d)
        | .error t => settle d t
    | .error t => settle d t

/-- a file written at a path, in a directory that is there -/
def writeFile (d : Disk) (p : Path) (bytes : Bytes) : Except Trouble Disk :=
  match p.names.getLast? with
  | none => .error (if p.absolute then .isDirectory else .missing)
  | some name => do
    let place ← d.enter p.names.dropLast
    if isDots name ∨ p.closed then throw .isDirectory
    if isTooLong name then throw .tooLong
    if d.isDirectory (place ++ [name]) then throw .isDirectory
    return d.put (place ++ [name]) (some bytes)

/-! ### storage -/

def hasNul (s : String) : Bool := s.toList.contains '\x00'

def read (d : Disk) (path : String) : Except Fault Bytes :=
  (if hasNul path then .error .nul else d.content (.ofText path)).mapError Trouble.fault

/-- a file written, after its directory is made -/
def write (d : Disk) (path : String) (bytes : Bytes) : Except Fault Unit × Disk :=
  let p := Path.ofText path
  let (made, d) := if p.outer.any hasNul then (.error .nul, d) else d.makeDirectories p.outer.reverse
  match made with
  | .error t => (.error t.fault, d)
  | .ok () =>
    match if hasNul path then .error .nul else d.writeFile p bytes with
    | .error t => (.error t.fault, d)
    | .ok d => (.ok (), d)

/-- a disk with some files and the directories around them -/
def ofFiles (files : List (String × Bytes)) : Disk :=
  files.foldl (fun d f => (d.write f.1 f.2).2) empty

/-- the files below a base -/
def storage (base : String) : Storage Disk where
  read name d := (d.read (Path.join base name), d)
  write name bytes d := d.write (Path.join base name) bytes

end Disk

end ServiceDiagram
