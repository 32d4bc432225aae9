import ServiceDiagram.CommandLine.Reader
import ServiceDiagram.Settings.Reader

/-!
# Options of the programs

The interactive program takes its settings from a file, if one is named, and lets options win over it
(`Options.resolve`).  The batch program has a directory and defaults (`BatchOptions.settings`).
-/

namespace ServiceDiagram.CommandLine

/-! ### the interactive program -/

structure Options where
  /-- the file of the settings -/
  config : Option String
  dir : Option String
  server : Option String
  markup : Bool
  download : Bool
  verbose : Bool
  deriving DecidableEq, Repr

namespace Options

inductive Key where
  | config
  | dir
  | server
  | markup
  | download
  | verbose
  | help
  deriving DecidableEq

def flags : List (Flag Key) :=
  [⟨.config, some 'c', "config", .value⟩, ⟨.dir, none, "output-dir", .value⟩,
    ⟨.server, none, "server", .value⟩, ⟨.markup, none, "markup", .switch⟩,
    ⟨.download, none, "download", .switch⟩, ⟨.verbose, some 'v', "verbose", .switch⟩,
    ⟨.help, some 'h', "help", .help⟩]

/-- the options on a command line -/
def ofArgs (args : List String) : Except Refusal Options := do
  let given ← read flags args
  return ⟨given.lookup .config, given.lookup .dir, given.lookup .server,
    (given.lookup .markup).isSome, (given.lookup .download).isSome, (given.lookup .verbose).isSome⟩

def override (o : Options) (s : Settings) : Settings :=
  { s with
    dir := o.dir.getD s.dir
    server := o.server.getD s.server
    variant := if o.markup then .markup else s.variant
    download := o.download || s.download }

def resolve (o : Options) (env : Settings.Environment) (content : String → Except Fault Bytes) :
    Except Fault Settings :=
  match o.config with
  | none => .ok (o.override .default)
  | some file =>
    match content file with
    | .error fault => .error fault
    | .ok bytes => (Settings.ofFile env bytes).map o.override

end Options

/-! ### the batch program -/

structure BatchOptions where
  dir : String
  markup : Bool
  /-- whether only the link is printed -/
  quiet : Bool
  deriving DecidableEq, Repr

namespace BatchOptions

inductive Key where
  | dir
  | markup
  | quiet
  | help
  deriving DecidableEq

def flags : List (Flag Key) :=
  [⟨.dir, some 'd', "dir", .value⟩, ⟨.markup, none, "markup", .switch⟩,
    ⟨.quiet, some 'q', "quiet", .switch⟩, ⟨.help, some 'h', "help", .help⟩]

def ofArgs (args : List String) : Except Refusal BatchOptions := do
  let given ← read flags args
  return ⟨(given.lookup .dir).getD Settings.default.dir, (given.lookup .markup).isSome,
    (given.lookup .quiet).isSome⟩

def settings (o : BatchOptions) : Settings :=
  { Settings.default with dir := o.dir, variant := .ofChange o.markup }

end BatchOptions

end ServiceDiagram.CommandLine
