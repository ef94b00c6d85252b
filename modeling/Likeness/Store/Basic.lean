import Likeness.Batch.Document
import Likeness.Digest.Run
import Likeness.Report.Text
import Likeness.Store.Answer
import Likeness.Store.Fault

/-!
# A store of runs

A store keeps finished batches in three tables: one row for each run, one for each of its
identifiers, and one for each of its results.  Rows are kept under keys: the run, the run and
the place of an identifier, the run and the two names of a pair.  A pair has to have a
similarity that is a number.

* `saveBy` adds all rows of a run, one after the other, to whatever takes rows; `Store.save` adds
  them to a store.
* `Store.list` lists the runs, and `Store.results` and `Store.matrix` read a run back.  The matrix
  finds the place of a name by halving, as the identifiers of a batch are in ascending order.
-/

namespace Likeness

section Rows

/-- A run. -/
structure StoredRun where
  runId : String
  digest : String
  name? : Option String
  seconds : Nat
  treeCount : Nat
  /-- The document of the parameters. -/
  params : String
deriving DecidableEq, Repr

/-- An identifier of a run, at its place. -/
structure StoredFile where
  runId : String
  position : Nat
  file : String
deriving DecidableEq, Repr

/-- A result of a run, addressed by names. -/
structure StoredPair where
  runId : String
  file1 : String
  file2 : String
  similarity : Binary64
  distance : Nat
deriving DecidableEq, Repr

/-- A number in a cell; one that does not fit comes around to the negative ones. -/
def storedNumber (n : Nat) : Cell :=
  .integer (Int.bmod n (2 ^ 64))

/-- A number as it was before it came around to the negative ones. -/
def wordOf (value : Int) : Nat :=
  (value % 2 ^ 64).toNat

def StoredRun.cells (run : StoredRun) : List (String × Cell) :=
  [("run_id", .text run.runId), ("run_hash", .text run.digest),
    ("name", (run.name?.map Cell.text).getD .null), ("timestamp", storedNumber run.seconds),
    ("tree_count", storedNumber run.treeCount), ("parameters", .text run.params)]

/-- What the table of identifiers is given for an identifier. -/
def StoredFile.cells (file : StoredFile) : List (String × Cell) :=
  [("run_id", .text file.runId), ("position", storedNumber file.position),
    ("file", .text file.file)]

/-- What the table of results is given for a result. -/
def StoredPair.cells (pair : StoredPair) : List (String × Cell) :=
  [("run_id", .text pair.runId), ("file_a", .text pair.file1), ("file_b", .text pair.file2),
    ("similarity", .ofReal pair.similarity), ("edit_distance", storedNumber pair.distance)]

/-- The columns that are given for each row of a table. -/
def Part.columns : Part → List String
  | .runs => ["run_id", "run_hash", "name", "timestamp", "tree_count", "parameters"]
  | .files => ["run_id", "position", "file"]
  | .pairs => ["run_id", "file_a", "file_b", "similarity", "edit_distance"]

end Rows

namespace Store

section Saving

/-- The digest of a run in its name. -/
def digestLength : Nat := 12

/-- The name of a run: the milliseconds of the clock and the first digits of the digest. -/
def runId (digest : String) (clock : Nat) : String :=
  toString clock ++ "-" ++ String.ofList (digest.toList.take digestLength)

def runRow (name? : Option String) (params : Params) (batch : Batch) (clock : Nat) :
    StoredRun :=
  let digest := batch.digest
  ⟨runId digest clock, digest, name?, clock / 1000, batch.identifiers.length,
    params.document.compact⟩

def fileRows (runId : String) (identifiers : List String) : List StoredFile :=
  identifiers.zipIdx.map (fun (file, position) => ⟨runId, position, file⟩)

def pairRow (runId : String) (r : Record) : StoredPair :=
  ⟨runId, r.file1, r.file2, r.similarity, r.distance⟩

section Rows

variable {n : Type → Type} [Monad n] [MonadExceptOf StoreFault n] {σ : Type}
  (prepare : σ → Part → List String → n Unit)
  (insert : σ → Part → List (String × Cell) → n σ)

/-- Adds rows to a part, one after the other. -/
def insertRowsBy (state : σ) (part : Part) (rows : List (List (String × Cell))) : n σ :=
  rows.foldlM (fun state => insert state part) state

/-- Gets ready to add rows to a part, and adds them. -/
def insertAllBy (state : σ) (part : Part) (rows : List (List (String × Cell))) : n σ := do
  prepare state part part.columns
  insertRowsBy insert state part rows

/-- Adds all rows of a batch to something that takes rows: the name of the new run, and what has
become of it. -/
def saveBy (state : σ) (name? : Option String) (params : Params) (batch : Batch) (clock : Nat) :
    n (String × σ) := do
  let run := runRow name? params batch clock
  let files := fileRows run.runId batch.identifiers
  let state ← insertAllBy prepare insert state .runs [run.cells]
  let state ← insertAllBy prepare insert state .files (files.map StoredFile.cells)
  prepare state .pairs Part.pairs.columns
  match batch.records? with
  | none => throw .unnamed
  | some records =>
      let pairs := records.map (pairRow run.runId)
      let state ← insertRowsBy insert state .pairs (pairs.map StoredPair.cells)
      return (run.runId, state)

end Rows

/-- Whether rows of a part can be given values for some columns. -/
def admitRows (store : Store) (part : Part) (keys : List String) : Except StoreFault Unit :=
  (store.admits part keys).mapError .ofTable

def insertRow (store : Store) (part : Part) (given : List (String × Cell)) :
    Except StoreFault Store :=
  (store.insert part given).mapError .ofTable

/-- Adds all rows of a batch: the name of the new run and the store that holds it. -/
def save (store : Store) (name? : Option String) (params : Params) (batch : Batch)
    (clock : Nat) : Except StoreFault (String × Store) :=
  saveBy admitRows insertRow store name? params batch clock

end Saving

section Reading

def readInfo (row : AnswerRow) : Except QuestionFault RunInfo := do
  let treeCount ← row.integer 4
  let pairCount ← row.integer 5
  let runId ← row.text 0
  let digest ← row.text 1
  let name? ← row.optionalText 2
  let seconds ← row.integer 3
  return ⟨runId, digest, name?, seconds, wordOf treeCount, wordOf pairCount⟩

def readRecord (row : AnswerRow) : Except QuestionFault Record := do
  let distance ← row.integer 2
  let file1 ← row.text 0
  let file2 ← row.text 1
  let similarity ← row.real 3
  return ⟨file1, file2, wordOf distance, similarity⟩

def readInfos (answer : Answer) : Except QuestionFault (List RunInfo) :=
  answer.readAll readInfo

/-- Makes sure that there is a run of this name in an answer. -/
def demand (runId : String) (answer : Answer) : Except QuestionFault Unit := do
  match ← answer.readFirst? (fun row => row.text 0) with
  | some _ => return ()
  | none => throw (.runNotFound runId)

def readRecords (answer : Answer) : Except QuestionFault (List Record) :=
  answer.readAll readRecord

/-- The identifiers in an answer. -/
def readFiles (answer : Answer) : Except QuestionFault (List String) :=
  answer.readAll (fun row => row.text 0)

/-- Looks for a name among those from `low` up to below `low + count`, which are in ascending
order, by halving. -/
def placeIn (names : Array String) (name : String) (low count : Nat) : Option Nat :=
  if count ≤ 1 then
    if count = 1 ∧ names[low]? = some name then some low else none
  else
    let half := count / 2
    match names[low + half]? with
    | some middle =>
        placeIn names name (if name < middle then low else low + half) (count - half)
    | none => none
termination_by count

/-- Enters a record into the matrix of some identifiers. -/
def enterRecord (names : Array String) (m : SymmetricMatrix Binary64) (r : Record) :
    SymmetricMatrix Binary64 :=
  match placeIn names r.file1 0 names.size, placeIn names r.file2 0 names.size with
  | some i, some j => m.put i j r.similarity
  | _, _ => m

/-- The matrix of some identifiers that is put together from records. -/
def matrixOf (identifiers : List String) (records : List Record) : SymmetricMatrix Binary64 :=
  records.foldl (enterRecord identifiers.toArray) (similarityMatrix identifiers.length)

end Reading

section Questions

variable (store : Store) (runId : String)

/-- All runs, the latest first. -/
def list : Except QuestionFault (List RunInfo) := do
  readInfos (← store.answer .runs)

/-- Makes sure that there is a run of this name. -/
def demandRun : Except QuestionFault Unit := do
  demand runId (← store.answer (.run runId))

/-- The records of a run in the order of their names. -/
def results : Except QuestionFault (List Record) := do
  store.demandRun runId
  readRecords (← store.answer (.results runId))

/-- The identifiers of a run in the order of their places. -/
def identifiersOf : Except QuestionFault (List String) := do
  readFiles (← store.answer (.files runId))

/-- The identifiers of a run and the matrix of its similarities. -/
def matrix : Except QuestionFault (List String × SymmetricMatrix Binary64) := do
  store.demandRun runId
  let identifiers ← store.identifiersOf runId
  let records ← store.results runId
  return (identifiers, matrixOf identifiers records)

end Questions

end Store

end Likeness
