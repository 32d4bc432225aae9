import ServiceDiagram.Program.Report
import ServiceDiagram.Surroundings.Disk
import ServiceDiagram.Surroundings.Terminal

/-!
# The programs at a terminal

Answers requests from the standard streams and the files of the machine.  There is no network here, so a
drawing is not downloaded; its link is for a browser.  With `render` as the first argument the batch
program runs.
-/

namespace ServiceDiagram.Program

/-! ### requests -/

def faultOf : IO.Error → Fault
  | .noFileOrDirectory _ _ _ => Disk.Trouble.fault .missing
  | .permissionDenied _ _ _ => .access .permissionDenied "Permission denied (os error 13)"
  | e => .access .other (toString e)

def attempt {α : Type} (action : IO α) : IO (Except Fault α) := do
  match ← action.toBaseIO with
  | .ok a => return .ok a
  | .error e => return .error (faultOf e)

def printNow (text : String) : IO Unit := do
  let output ← IO.getStdout
  output.putStr text
  output.flush

/-- the bytes of the next line, with its line feed -/
partial def nextLine (line : Bytes) : IO Bytes := do
  match (← (← IO.getStdin).read 1).toList with
  | [] => return line.reverse
  | b :: _ => if b = 0x0a then return (b :: line).reverse else nextLine (b :: line)

/-- asks until a line settles the choice, or the input ends -/
partial def choose (message : String) (choices : List String) (default : Nat) :
    IO (Except Fault Nat) := do
  printNow (Shown.menu message choices default).text
  let line ← nextLine []
  if line.isEmpty then return .error Terminal.noAnswer
  match Terminal.settle? choices default line with
  | some result => return result
  | none =>
    printNow Shown.complaint.text
    choose message choices default

def readFile (path : String) : IO (Except Fault Bytes) :=
  attempt do return (← IO.FS.readBinFile ⟨path⟩).toList

/-- writes a file, after its directory is made -/
def writeFile (path : String) (content : Bytes) : IO (Except Fault Unit) :=
  attempt do
    let p := Path.ofText path
    let outer := (if p.absolute then "/" else "") ++ "/".intercalate p.outer
    if !p.outer.isEmpty then IO.FS.createDirAll ⟨outer⟩
    IO.FS.writeBinFile ⟨path⟩ content.toByteArray

/-- the reply to a request of a run whose files are below a directory -/
def perform (dir : String) : (r : Request) → IO r.Reply
  | .input message default => do
    printNow (Shown.question message default).text
    return (Terminal.input message default (.new (← nextLine []))).1
  | .select message choices default => choose message choices default
  | .say text => do
    printNow (Shown.note text).text
    return .ok ()
  | .read name => readFile (Path.join dir name)
  | .write name content => writeFile (Path.join dir name) content
  | .fetch url => return .error (.unreachable ("no network for " ++ url))

partial def proceed (s : Settings) : Generation.Progress → IO (Except Fault Generation.Output)
  | .done result => return result
  | .next phase => do proceed s (phase.resume s (← perform s.dir (phase.request s)))

/-! ### programs -/

def Report.finish (r : Report) : IO UInt32 := do
  printNow r.printed
  let errors ← IO.getStderr
  for line in r.complaints do errors.putStrLn line
  return r.code.toUInt32

def environmentFor (content : Bytes) : IO Settings.Environment := do
  let names := (Settings.names ((Text.decode? content).getD "").toList).map String.ofList
  names.eraseDups.filterMapM fun name => do
    return (← IO.getEnv name).map fun value => (name, value)

def runInteractive (args : List String) : IO UInt32 := do
  match CommandLine.Options.ofArgs args with
  | .error refusal => (Report.ofRefusal refusal).finish
  | .ok options =>
    let content ← match options.config with
      | some file => readFile file
      | none => pure (.ok [])
    let env ← environmentFor (content.toOption.getD [])
    match Interactive.settings options env fun _ => content with
    | .error report => report.finish
    | .ok s =>
      let result ← proceed s (.next (.loading true))
      (Interactive.report s result).finish

def runBatch (args : List String) : IO UInt32 := do
  match CommandLine.BatchOptions.ofArgs args with
  | .error refusal => (Report.ofRefusal refusal).finish
  | .ok options =>
    match Batch.settings options with
    | .error report => report.finish
    | .ok s =>
      let result ← proceed s (.next (.loading false))
      (Batch.report options result).finish

end ServiceDiagram.Program

def main (args : List String) : IO UInt32 :=
  match args with
  | "render" :: rest => ServiceDiagram.Program.runBatch rest
  | _ => ServiceDiagram.Program.runInteractive args
