import Likeness.Calendar
import Likeness.Command.Basic
import Likeness.Command.Benchmark
import Likeness.Equivalence
import Likeness.Report.Csv
import Likeness.Report.Metrics
import Likeness.Store.Access
import Likeness.Submission.Comparing

/-!
# Running commands

`Command.execute` does what a command says on a host, or fails with a fault.  `runProgram` reads
a command line and does what it asks for; it answers the exit code: zero if all went well, one
after a fault, and two for misuse.
-/

namespace Likeness

/-- Why a command failed. -/
inductive CommandFault
  | load (fault : LoadFault)
  | compare (fault : CompareFault)
  /-- A report cannot be written. -/
  | output (fault : FileFault)
  | store (fault : StoreFault)
  /-- A place of a result has no identifier; no batch that comes from comparing is like that. -/
  | unnamed
deriving DecidableEq, Repr

def CommandFault.complaint : CommandFault → String
  | .load fault => "Error: " ++ fault.inspect ++ "\n"
  | .compare (.tooFew _) => "Need at least two AST files for comparison.\n"
  | .compare fault => "Error: " ++ fault.inspect ++ "\n"
  | .output fault => "Error: Io(" ++ fault.inspect ++ ")\n"
  | .store fault => "Error: " ++ fault.inspect ++ "\n"
  | .unnamed => "Error: " ++ Quoting.text.quote StoreFault.unnamedMessage ++ "\n"

section Steps

variable {m : Type → Type} [Monad m] [Host m]

abbrev Step (m : Type → Type) (α : Type) : Type := ExceptT CommandFault m α

/-- A step whose faults are faults of the command. -/
def step {α ε : Type} (wrap : ε → CommandFault) (action : m (Except ε α)) : Step m α :=
  ExceptT.mk (do return (← action).mapError wrap)

def named {α : Type} : Option α → Step m α
  | none => throw .unnamed
  | some a => return a

/-- Writes to the output. -/
def say (text : String) : Step m Unit :=
  ExceptT.lift (Host.say text)

/-- Writes a line to the stream of complaints, unless asked to be quiet. -/
def note (quiet : Bool) (text : String) : Step m Unit :=
  if quiet then return () else ExceptT.lift (Host.complain (Printed.line text))

def writeReport (path text : String) : Step m Unit :=
  step .output (Host.writeText path text)

end Steps

namespace Command

variable {m : Type → Type} [Monad m] [Host m]

/-- The report of a batch in a given form, at the time of the clock. -/
def report (format : ReportFormat) (params : Params) (batch : Batch) : Step m String := do
  match format with
  | .document =>
      let clock ← ExceptT.lift Host.clock
      let report ← named (batch.report? params (timestamp (clock / 1000)))
      return report.document.pretty
  | .table => return Csv.records (← named batch.records?)

/-- Writes the report of a batch where it is asked for. -/
def writeOutput (quiet : Bool) (c : Comparison) (batch : Batch) : Step m Unit := do
  match c.output? with
  | none => return ()
  | some path =>
      writeReport path (← report c.format c.params batch)
      note quiet ("Output: " ++ path)

/-- Writes the matrix of a batch where it is asked for. -/
def writeMatrix (quiet : Bool) (c : Comparison) (batch : Batch) : Step m Unit := do
  match c.matrix? with
  | none => return ()
  | some path =>
      writeReport path (← named (Csv.matrix? batch.identifiers batch.similarity))
      note quiet ("Matrix output: " ++ path)

def saveBatch (quiet : Bool) (c : Comparison) (batch : Batch) : Step m Unit := do
  match c.store? with
  | none => return ()
  | some path =>
      let runId ← step .store (Store.saveRun path c.runName? c.params batch)
      note quiet ("Stored run: " ++ runId)

/-- Shows a batch: its summary and its failures unless asked to be quiet, and the most similar
pairs if asked for. -/
def showBatch (quiet : Bool) (c : Comparison) (batch : Batch) : Step m Unit := do
  if !quiet then
    say (Printed.summary batch.summary)
    say (← named (Printed.failures? batch))
  match c.shown? with
  | none => return ()
  | some limit =>
      let records ← named batch.records?
      say (Printed.line "" ++ Printed.line "=== Most Similar Pairs ==="
        ++ Printed.results records (some limit))

def compareAll (quiet : Bool) (c : Comparison) : Step m Unit := do
  let batch ← step .compare (compareDirectory c.directory c.params false)
  writeOutput quiet c batch
  writeMatrix quiet c batch
  saveBatch quiet c batch
  showBatch quiet c batch

def checkEquivalence (a b : String) (ignoreNames : Bool) : Step m Unit := do
  let treeA ← step .load (loadFile a)
  let treeB ← step .load (loadFile b)
  let score := scorePair treeA treeB
  say (Printed.line "=== Equivalence ==="
    ++ Printed.line ("A: " ++ a)
    ++ Printed.line ("B: " ++ b)
    ++ Printed.line ("Ignore names: " ++ (if ignoreNames then "true" else "false"))
    ++ Printed.line ("Equivalent: "
        ++ Printed.yesOrNo (areEquivalent ignoreNames (some treeA) (some treeB)))
    ++ Printed.line ("Tree edit distance: " ++ toString score.distance)
    ++ Printed.line ("Similarity: " ++ score.similarity.fixed 4))

/-- Shows the metrics of a directory. -/
def showStatistics (directory suffix : String) : Step m Unit := do
  let loaded ← step .load (loadDirectory directory suffix)
  say (Printed.statistics (loaded.trees.map (fun (name, tree) => (name, tree.metrics)))
    loaded.skipped.length)

/-- Shows the metrics of a file. -/
def showInfo (file : String) : Step m Unit := do
  let tree ← step .load (loadFile file)
  say (Printed.metrics file tree.kind tree.metrics)

def showRuns (store : String) : Step m Unit := do
  let runs ← step .store (Store.listRuns store)
  say (← named (Printed.runs? runs))

/-- Writes the matrix of a run to a file or to the output. -/
def exportMatrix (store run : String) (output? : Option String) : Step m Unit := do
  let (identifiers, similarities) ← step .store (Store.loadMatrix store run)
  let table ← named (Csv.matrix? identifiers similarities)
  match output? with
  | some path => writeReport path table
  | none => say table

def execute (quiet : Bool) : Command → Step m Unit
  | .compare comparison => compareAll quiet comparison
  | .equivalence a b ignoreNames => checkEquivalence a b ignoreNames
  | .statistics directory suffix => showStatistics directory suffix
  | .info file => showInfo file
  | .runs store => showRuns store
  | .matrix store run output? => exportMatrix store run output?
  | .benchmark iterations size => ExceptT.lift (Benchmark.run iterations size)

end Command

section Programs

/-- The name and the version of the program. -/
def versionLine : String :=
  "ast-similarity " ++ reportVersion ++ "\n"

/-- How to use the program. -/
def usage : String :=
  "Pairwise structural similarity of parsed source files\n\n"
    ++ "Usage: ast-similarity [--quiet] [--debug] <COMMAND>\n\n"
    ++ "Commands:\n"
    ++ String.join (verbs.map (fun verb => "  " ++ verb.name ++ "\n"))

variable {m : Type → Type} [Monad m] [Host m]

/-- Reads a command line and does what it asks for: the exit code. -/
def runProgram (arguments : List String) : m Nat := do
  match Request.ofArguments? arguments with
  | none =>
      Host.complain usage
      return 2
  | some .version =>
      Host.say versionLine
      return 0
  | some .help =>
      Host.say usage
      return 0
  | some (.run quiet command) =>
      match ← (command.execute quiet).run with
      | .ok () => return 0
      | .error fault =>
          Host.complain fault.complaint
          return 1

end Programs

end Likeness
