import ServiceDiagram.CommandLine.Options
import ServiceDiagram.Generation.Run
import ServiceDiagram.Settings.Check

/-!
# What the programs report

A program ends with an exit code, a text for the user and complaints.  The interactive program says what
can be done about a fault; the batch program prints the diagram and its link, for other programs to
read.
-/

namespace ServiceDiagram.Program

structure Report where
  code : Nat
  printed : String
  complaints : List String
  deriving DecidableEq, Repr

/-- an end before anything is done: the command line is turned down, or help is asked for -/
def Report.ofRefusal : CommandLine.Refusal → Report
  | .help => ⟨0, "", []⟩
  | _ => ⟨2, "", []⟩

/-! ### the interactive program -/

namespace Interactive

def complaint (f : Fault) : String := "❌ " ++ f.friendly

def advice (f : Fault) : String := "💡 " ++ f.suggestion

def settings (o : CommandLine.Options) (env : Settings.Environment)
    (content : String → Except Fault Bytes) : Except Report Settings :=
  match o.resolve env content with
  | .error f => .error ⟨1, "", [complaint f, advice f]⟩
  | .ok s =>
    match s.check with
    | .error f => .error ⟨1, "", [complaint f]⟩
    | .ok () => .ok s

def summary (s : Settings) (o : Generation.Output) : List String :=
  ["📄 Diagram source: " ++ s.dir ++ "/" ++ o.diagramFile] ++
    (o.imageFile.toList.map fun file => "🖼 Diagram: " ++ s.dir ++ "/" ++ file) ++ ["🔗 " ++ o.url]

def report (s : Settings) : Except Fault Generation.Output → Report
  | .ok o => ⟨0, unlines (summary s o), []⟩
  | .error f => ⟨f.severity.exitCode, "", [complaint f, advice f]⟩

end Interactive

/-! ### the batch program -/

namespace Batch

def complaint (f : Fault) : String := "Error: " ++ f.message

def settings (o : CommandLine.BatchOptions) : Except Report Settings :=
  match o.settings.check with
  | .error f => .error ⟨1, "", [complaint f]⟩
  | .ok () => .ok o.settings

def report (o : CommandLine.BatchOptions) : Except Fault Generation.Output → Report
  | .ok made => ⟨0, (if o.quiet then "" else made.diagram) ++ made.url ++ "\n", []⟩
  | .error f => ⟨1, "", [complaint f]⟩

end Batch

end ServiceDiagram.Program
