import ServiceDiagram.Program.Report
import ServiceDiagram.Surroundings.Disk
import ServiceDiagram.Surroundings.Server
import ServiceDiagram.Surroundings.Terminal

/-!
# Running the programs

Both programs on a terminal and a disk, with a server that may be asked for a drawing.  The report of the
interactive program is printed behind its questions.
-/

namespace ServiceDiagram.Program

/-- a terminal, a disk and what was fetched -/
abbrev Machine := World Terminal Disk Fetched

/-- the surroundings of a run whose files are below a directory -/
def around (fetcher : Fetcher Fetched) (dir : String) : Surroundings Terminal Disk Fetched :=
  ⟨Terminal.prompter, Disk.storage dir, fetcher⟩

/-- a report printed behind what is shown already -/
def Report.behind (r : Report) (t : Terminal) : Report := { r with printed := t.transcript ++ r.printed }

/-- the interactive program, if at most `fuel` requests lead to its end -/
def interactive? (fetcher : Fetcher Fetched) (env : Settings.Environment) (args : List String)
    (fuel : Nat) (m : Machine) : Option (Report × Machine) :=
  match CommandLine.Options.ofArgs args with
  | .error refusal => some (.ofRefusal refusal, m)
  | .ok options =>
    match Interactive.settings options env m.files.read with
    | .error report => some (report, m)
    | .ok s =>
      (Generation.run? (around fetcher s.dir) s true fuel m).map fun (result, m) =>
        ((Interactive.report s result).behind m.user, m)

/-- the batch program, if at most `fuel` requests lead to its end -/
def batch? (fetcher : Fetcher Fetched) (args : List String) (fuel : Nat) (m : Machine) :
    Option (Report × Machine) :=
  match CommandLine.BatchOptions.ofArgs args with
  | .error refusal => some (.ofRefusal refusal, m)
  | .ok options =>
    match Batch.settings options with
    | .error report => some (report, m)
    | .ok s =>
      (Generation.run? (around fetcher s.dir) s false fuel m).map fun (result, m) =>
        (Batch.report options result, m)

end ServiceDiagram.Program
