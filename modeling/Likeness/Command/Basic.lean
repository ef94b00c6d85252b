import Likeness.Batch.Basic
import Likeness.Command.Form

/-!
# Commands

A command line names a command and fills in its form.  `Request.ofArguments?` reads a command
line; where it yields nothing, the command line is misuse.

The flags `--quiet` and `--debug` belong to every command and may also stand in front of it.
-/

namespace Likeness

/-- What to do with the comparison of a directory. -/
structure Comparison where
  directory : String
  /-- Where the report goes. -/
  output? : Option String
  format : ReportFormat
  /-- Where the matrix of similarities goes. -/
  matrix? : Option String
  params : Params
  /-- The store that keeps the run. -/
  store? : Option String
  runName? : Option String
  /-- How many of the most similar pairs are shown. -/
  shown? : Option Nat
deriving DecidableEq, Repr

/-- A command. -/
inductive Command
  | compare (comparison : Comparison)
  | equivalence (a b : String) (ignoreNames : Bool)
  | statistics (directory suffix : String)
  | info (file : String)
  | runs (store : String)
  | matrix (store run : String) (output? : Option String)
  | benchmark (iterations size : Nat)
deriving DecidableEq, Repr

/-- What a command line asks for. -/
inductive Request
  | run (quiet : Bool) (command : Command)
  | version
  | help
deriving DecidableEq, Repr

section Values

namespace Filled

def required {α : Type} (filled : Filled) (name : String) (read : String → Option α) :
    Option α :=
  (filled.value? name).bind read

def optional {α : Type} (filled : Filled) (name : String) (read : String → Option α) :
    Option (Option α) :=
  match filled.value? name with
  | none => some none
  | some text => (read text).map some

end Filled

end Values

section Verbs

/-- A command before its form is filled in. -/
structure Verb where
  name : String
  form : Form
  /-- The command of a form that is filled in. -/
  read : Filled → Option Command

def readComparison (f : Filled) : Option Command := do
  let directory ← f.required "dir" pathOf?
  let output? ← f.optional "output" pathOf?
  let format ← f.optional "format" formatOf?
  let matrix? ← f.optional "matrix" pathOf?
  let workers? ← f.optional "workers" countOf?
  let progressEvery? ← f.optional "progress-every" countOf?
  let store? ← f.optional "db" pathOf?
  let shown? ← f.optional "show-results" countOf?
  let standard := Params.standard
  let params : Params :=
    { workers?
      progressEvery := progressEvery?.getD standard.progressEvery
      suffix := (f.value? "suffix").getD standard.suffix
      ignoreNames := standard.ignoreNames }
  let runName? := f.value? "run-name"
  if runName?.isSome && store?.isNone then none
  else
    return .compare
      { directory, output?, format := format.getD .document, matrix?, params, store?, runName?,
        shown? }

/-- The command that checks two files for equivalence. -/
def readEquivalence (f : Filled) : Option Command :=
  match f.places with
  | [a, b] => do return .equivalence (← pathOf? a) (← pathOf? b) (f.has "ignore-names")
  | _ => none

/-- The command that shows the metrics of a directory. -/
def readStatistics (f : Filled) : Option Command := do
  return .statistics (← f.required "dir" pathOf?)
    ((f.value? "suffix").getD Params.standard.suffix)

/-- The command that shows the metrics of a file. -/
def readInfo (f : Filled) : Option Command :=
  match f.places with
  | [file] => (pathOf? file).map .info
  | _ => none

/-- The command that lists the runs of a store. -/
def readRuns (f : Filled) : Option Command :=
  (f.required "db" pathOf?).map .runs

/-- The command that writes the matrix of a run. -/
def readMatrix (f : Filled) : Option Command := do
  return .matrix (← f.required "db" pathOf?) (← f.value? "run") (← f.optional "output" pathOf?)

/-- The command that measures the time of comparisons. -/
def readBenchmark (f : Filled) : Option Command := do
  let iterations? ← f.optional "iterations" countOf?
  let size? ← f.optional "size" countOf?
  return .benchmark (iterations?.getD 100) (size?.getD 200)

/-- A form with the flags of every command. -/
def formWith (flags : List String) (options : List (String × ValueKind))
    (places : List ValueKind) : Form :=
  ⟨["quiet", "debug"] ++ flags, options, places⟩

/-- The form of the command that compares a directory. -/
def comparisonForm : Form :=
  formWith []
    [("dir", .path), ("output", .path), ("format", .format), ("matrix", .path),
      ("workers", .count), ("progress-every", .count), ("suffix", .text), ("db", .path),
      ("run-name", .text), ("show-results", .count)]
    []

def verbs : List Verb :=
  [⟨"compare", comparisonForm, readComparison⟩,
    ⟨"equiv", formWith ["ignore-names"] [] [.path, .path], readEquivalence⟩,
    ⟨"stats", formWith [] [("dir", .path), ("suffix", .text)] [], readStatistics⟩,
    ⟨"info", formWith [] [] [.path], readInfo⟩,
    ⟨"runs", formWith [] [("db", .path)] [], readRuns⟩,
    ⟨"matrix", formWith [] [("db", .path), ("run", .text), ("output", .path)] [], readMatrix⟩,
    ⟨"benchmark", formWith [] [("iterations", .count), ("size", .count)] [], readBenchmark⟩]

/-- The command of a given name. -/
def verb? (name : String) : Option Verb :=
  verbs.find? (fun verb => verb.name == name)

/-- The request of a command with its arguments. -/
def Verb.request? (verb : Verb) (quiet : Bool) (arguments : List String) : Option Request :=
  match verb.form.fill Filled.blank arguments with
  | none => none
  | some .help => some .help
  | some (.filled f) => (verb.read f).map (Request.run (quiet || f.has "quiet"))

end Verbs

namespace Request

def helpOn? : List String → Option Request
  | [] => some .help
  | [name] => if name = "help" || (verb? name).isSome then some .help else none
  | _ => none

/-- Reads a command line of which some flags have been read. -/
def read? (quiet debug : Bool) : List String → Option Request
  | [] => none
  | argument :: rest =>
      match Argument.ofText argument with
      | .long "quiet" none => if quiet then none else read? true debug rest
      | .long "debug" none => if debug then none else read? quiet true rest
      | .long "version" none => some .version
      | .long "help" none => some .help
      | .short ('V' :: _) => some .version
      | .short ('h' :: _) => some .help
      | .plain name =>
          if name = "help" then helpOn? rest
          else (verb? name).bind (fun verb => verb.request? quiet rest)
      | _ => none

/-- Reads a command line. -/
def ofArguments? (arguments : List String) : Option Request :=
  read? false false arguments

end Request

end Likeness
