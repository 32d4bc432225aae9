import ServiceDiagram.Surroundings.World

/-!
# Files in memory

A storage that can be told to fail: all reads, or chosen writes by their number.  A write that fails
changes nothing.
-/

namespace ServiceDiagram

structure Memory where
  /-- contents by name, each name once -/
  files : List (String × Bytes)
  /-- the writes that succeeded, in order -/
  written : List (String × Bytes)
  /-- the number of writes so far -/
  attempts : Nat
  /-- whether reads fail, and which writes, counted from one -/
  failReads : Bool
  failWrite : Nat → Bool

namespace Memory

def ofFiles (files : List (String × Bytes)) : Memory := ⟨files, [], 0, false, fun _ => false⟩

def content? (m : Memory) (name : String) : Option Bytes := m.files.lookup name

/-- contents with one of them replaced, or a new one at the end -/
def put (name : String) (content : Bytes) : List (String × Bytes) → List (String × Bytes)
  | [] => [(name, content)]
  | file :: rest =>
    if file.1 = name then (name, content) :: rest else file :: put name content rest

def denied : Fault := .access .permissionDenied "denied"

def read (name : String) (m : Memory) : Except Fault Bytes × Memory :=
  if m.failReads then (.error denied, m)
  else match m.content? name with
    | some content => (.ok content, m)
    | none => (.error (.access .notFound ("File not found: " ++ name)), m)

def write (name : String) (content : Bytes) (m : Memory) : Except Fault Unit × Memory :=
  let m := { m with attempts := m.attempts + 1 }
  if m.failWrite m.attempts then (.error denied, m)
  else
    (.ok (),
      { m with files := put name content m.files, written := m.written ++ [(name, content)] })

def storage : Storage Memory := ⟨read, write⟩

end Memory

end ServiceDiagram
