import ServiceDiagram.Toml.Lexeme
import ServiceDiagram.Toml.Scalar

/-!
# Reading TOML

`read?` gives the table that a text spells, or nothing if the text is not well formed or gives a key
twice.  Arrays and inline tables nest at most `maxDepth` deep.
-/

namespace ServiceDiagram.Toml

open Text (behind?)

/-- how deep arrays and inline tables nest -/
def maxDepth : Nat := 80

/-! ### values -/

mutual

/-- a value, inside `depth` arrays and inline tables -/
def value? (fuel : Nat) (depth : Nat) (cs : List Char) : Option (Value × List Char) :=
  match fuel with
  | 0 => none
  | fuel + 1 =>
    match cs with
    | [] => none
    | c :: rest =>
      if c = '"' ∨ c = '\'' then (string? cs).map fun p => (.string p.1, p.2)
      else if c = '[' then
        if maxDepth ≤ depth then none
        else (items? fuel (depth + 1) (skipSpace rest)).map fun p => (.array p.1, p.2)
      else if c = '\x7b' then
        if maxDepth ≤ depth then none
        else (members? fuel (depth + 1) [] (skipSpace rest)).map fun p => (.table .inline p.1, p.2)
      else
        let (scalar, rest) := takeScalar cs
        (scalarOf? scalar).map fun v => (v, rest)

def items? (fuel : Nat) (depth : Nat) (cs : List Char) : Option (List Value × List Char) :=
  match fuel with
  | 0 => none
  | fuel + 1 =>
    match cs with
    | ']' :: rest => some ([], rest)
    | _ =>
      match value? fuel depth cs with
      | none => none
      | some (v, rest) =>
        match skipSpace rest with
        | ',' :: rest => (items? fuel depth (skipSpace rest)).map fun p => (v :: p.1, p.2)
        | ']' :: rest => some ([v], rest)
        | _ => none

def members? (fuel : Nat) (depth : Nat) (t : Table) (cs : List Char) : Option (Table × List Char) :=
  match fuel with
  | 0 => none
  | fuel + 1 =>
    match cs with
    | '\x7d' :: rest => some (t, rest)
    | _ =>
      match key? (cs.length + 1) cs with
      | none => none
      | some (path, rest) =>
        match skipBlanks rest with
        | '=' :: rest =>
          match value? fuel depth (skipBlanks rest) with
          | none => none
          | some (v, rest) =>
            match t.insert? v path with
            | none => none
            | some t =>
              match skipSpace rest with
              | ',' :: rest => members? fuel depth t (skipSpace rest)
              | '\x7d' :: rest => some (t, rest)
              | _ => none
        | _ => none

end

/-! ### documents -/

/-- the text behind the end of a line -/
def endLine? (cs : List Char) : Option (List Char) :=
  match skipComment (skipBlanks cs) with
  | [] => some []
  | cs => lineEnd? cs

/-- the path of a header without its last key, and that key -/
def splitLast? : List String → Option (List String × String)
  | [] => none
  | [key] => some ([], key)
  | part :: rest => (splitLast? rest).map fun p => (part :: p.1, p.2)

/-- what is read so far: all tables, and the path of the header that keys belong to -/
structure Draft where
  root : Table
  path : List String

/-- a header between single brackets, the first one read -/
def header? (d : Draft) (cs : List Char) : Option (Draft × List Char) := do
  let (path, rest) ← key? (cs.length + 1) (skipBlanks cs)
  let rest ← behind? [']'] (skipBlanks rest)
  let (outer, key) ← splitLast? path
  let root ← d.root.underHeader? (Table.open? key) outer
  return (⟨root, path⟩, rest)

/-- a header between double brackets, the first two read -/
def arrayHeader? (d : Draft) (cs : List Char) : Option (Draft × List Char) := do
  let (path, rest) ← key? (cs.length + 1) (skipBlanks cs)
  let rest ← behind? [']'] (← behind? [']'] (skipBlanks rest))
  let (outer, key) ← splitLast? path
  let root ← d.root.underHeader? (Table.append? key) outer
  return (⟨root, path⟩, rest)

def entry? (d : Draft) (cs : List Char) : Option (Draft × List Char) := do
  let (path, rest) ← key? (cs.length + 1) cs
  let rest ← behind? ['='] (skipBlanks rest)
  let (v, rest) ← value? (3 * cs.length + 16) 0 (skipBlanks rest)
  let root ← d.root.underHeader? (Table.insert? v path) d.path
  return (⟨root, d.path⟩, rest)

def line? (d : Draft) : List Char → Option (Draft × List Char)
  | '[' :: '[' :: rest => arrayHeader? d rest
  | '[' :: rest => header? d rest
  | cs => entry? d cs

def readLines? : Nat → Draft → List Char → Option Table
  | 0, _, _ => none
  | fuel + 1, d, cs =>
    match skipSpace cs with
    | [] => some d.root
    | cs =>
      match line? d cs with
      | none => none
      | some (d, rest) =>
        match endLine? rest with
        | none => none
        | some rest => readLines? fuel d rest

/-- the text without a mark of the byte order in front -/
def dropByteOrderMark : List Char → List Char
  | '\uFEFF' :: rest => rest
  | cs => cs

def read? (s : String) : Option Table :=
  let cs := dropByteOrderMark s.toList
  readLines? (cs.length + 1) ⟨[], []⟩ cs

end ServiceDiagram.Toml
