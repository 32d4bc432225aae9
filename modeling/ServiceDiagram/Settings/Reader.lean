import ServiceDiagram.Fault
import ServiceDiagram.Settings.Basic
import ServiceDiagram.Settings.Placeholder
import ServiceDiagram.Toml.Reader

/-!
# Reading settings

Settings are a TOML text with the tables `output` and `renderer`.  What a table does not say is as in
`Settings.default`, and keys that mean nothing are passed over.  A table may also be given as an array
of its first fields.
-/

namespace ServiceDiagram.Settings

open Toml (Value Table)

/-! ### values -/

def string? : Value → Option String
  | .string s => some s
  | _ => none

def boolean? : Value → Option Bool
  | .boolean b => some b
  | _ => none

def variantNamed? : String → Option Variant
  | "svg" => some .picture
  | "markup" => some .markup
  | _ => none

/-- a table or an array without anything in it -/
def isVoid : Value → Bool
  | .array items => items.isEmpty
  | .table _ entries => entries.isEmpty
  | _ => false

/-- a variant by its name, or by its name as a key to nothing -/
def variant? : Value → Option Variant
  | .string s => variantNamed? s
  | .table _ [(name, v)] => if isVoid v then variantNamed? name else none
  | _ => none

mutual

/-- a value whose numbers are in the ranges of TOML readers: 128 bits, and finite -/
def isSound : Value → Bool
  | .integer n => -(Nat.pow 2 127 : Int) ≤ n && n < Nat.pow 2 128
  | .float overflows => !overflows
  | .array items => areSound items
  | .tables items => areSoundTables items
  | .table _ entries => areSoundEntries entries
  | _ => true

def areSound : List Value → Bool
  | [] => true
  | v :: vs => isSound v && areSound vs

def areSoundTables : List (List (String × Value)) → Bool
  | [] => true
  | t :: ts => areSoundEntries t && areSoundTables ts

def areSoundEntries : List (String × Value) → Bool
  | [] => true
  | (_, v) :: rest => isSound v && areSoundEntries rest

end

/-! ### tables -/

/-- a value as a table with these fields; keys that are none of them must have sound values -/
def fields? (keys : List String) : Value → Option Table
  | .table _ entries =>
    if areSoundEntries (entries.filter fun e => !keys.contains e.1) then some entries else none
  | .array items => some (keys.zip items)
  | .tables items => some (keys.zip (items.map (.table .header)))
  | _ => none

/-- the field with a key, and a default if it is not there -/
def field? (read : Value → Option α) (key : String) (default : α) (t : Table) : Option α :=
  match t.lookup key with
  | some v => read v
  | none => some default

def output? (s : Settings) (v : Value) : Option Settings := do
  let t ← fields? ["dir", "data_file", "diagram_file"] v
  let dir ← field? string? "dir" s.dir t
  let dataFile ← field? string? "data_file" s.dataFile t
  let diagramFile ← field? string? "diagram_file" s.diagramFile t
  return { s with dir := dir, dataFile := dataFile, diagramFile := diagramFile }

def renderer? (s : Settings) (v : Value) : Option Settings := do
  let t ← fields? ["server", "variant", "download"] v
  let server ← field? string? "server" s.server t
  let variant ← field? variant? "variant" s.variant t
  let download ← field? boolean? "download" s.download t
  return { s with server := server, variant := variant, download := download }

def ofTable? (t : Table) : Option Settings := do
  let t ← fields? ["output", "renderer"] (.table .header t)
  let s ← field? (output? .default) "output" .default t
  field? (renderer? s) "renderer" s t

/-! ### texts -/

def unreadable : Fault :=
  .settingsCheck "toml_parsing" "TOML parsing error: these are no settings"

/-- the settings in a text, after its placeholders are filled -/
def read (env : Environment) (s : String) : Except Fault Settings :=
  match (Toml.read? (filled env s)).bind ofTable? with
  | some settings => .ok settings
  | none => .error unreadable

def ofFile (env : Environment) (content : Bytes) : Except Fault Settings :=
  match Text.decode? content with
  | some s => read env s
  | none => .error (.access .other "stream did not contain valid UTF-8")

end ServiceDiagram.Settings
