import Likeness.Store.Question

/-!
# Answers to questions

Four questions are put to a store: for all runs, for the run of a name, and for its results and
its identifiers.  An answer is a list of rows, of which each cell has to be of the kind that is
asked for.  `Store.answer` says what the tables of a store answer.

* Runs are listed by their seconds, the latest first, and then by their names as texts, the
  greatest first.
* Results are given in the order of their names, and identifiers in that of their places.
-/

namespace Likeness

/-- A row of an answer. -/
structure AnswerRow where
  /-- The names of the columns. -/
  columns : List String
  cells : List Cell

namespace AnswerRow

variable (row : AnswerRow) (place : Nat)

def wrongKind (cell : Cell) : QuestionFault :=
  .wrongKind place (row.columns.getD place "") cell.kind

def text : Except QuestionFault String :=
  match Table.cell row.cells place with
  | .text value => .ok value
  | .garbled bytes => .error (.garbled place ((Utf8.flaw? bytes).getD ⟨0, none⟩))
  | cell => .error (row.wrongKind place cell)

def optionalText : Except QuestionFault (Option String) :=
  if Table.cell row.cells place = .null then .ok none else (row.text place).map some

/-- A whole number of a row. -/
def integer : Except QuestionFault Int :=
  match Table.cell row.cells place with
  | .integer value => .ok value
  | cell => .error (row.wrongKind place cell)

def real : Except QuestionFault Binary64 :=
  match Table.cell row.cells place with
  | .integer value => .ok (Cell.realOf value)
  | .real value => .ok value
  | cell => .error (row.wrongKind place cell)

end AnswerRow

/-- Rows that answer a question. -/
structure Answer where
  /-- The names of the columns. -/
  columns : List String
  rows : List (List Cell)
  /-- Whether these are all rows; if not, the next one cannot be read. -/
  isWhole : Bool
deriving DecidableEq, Repr

namespace Answer

variable {α : Type}

/-- What is read off the rows, all of which have to be there. -/
def readAll (answer : Answer) (read : AnswerRow → Except QuestionFault α) :
    Except QuestionFault (List α) := do
  let values ← answer.rows.mapM (fun row => read ⟨answer.columns, row⟩)
  if answer.isWhole then return values else throw .illegible

/-- What is read off the first row, if there is one. -/
def readFirst? (answer : Answer) (read : AnswerRow → Except QuestionFault α) :
    Except QuestionFault (Option α) :=
  match answer.rows with
  | row :: _ => (read ⟨answer.columns, row⟩).map some
  | [] => if answer.isWhole then .ok none else .error .illegible

end Answer

/-- What is asked of a store. -/
inductive Query
  /-- All runs. -/
  | runs
  /-- The run of a name. -/
  | run (runId : String)
  /-- The results of a run. -/
  | results (runId : String)
  /-- The identifiers of a run. -/
  | files (runId : String)
deriving DecidableEq, Repr

namespace Query

/-- The text in which the number of results of a run is asked for. -/
def pairCountText : String :=
  "(SELECT COUNT(*) FROM similarities s WHERE s.run_id = r.run_id)"

def question : Query → Question
  | .runs =>
      ⟨"SELECT r.run_id, r.run_hash, r.name, r.timestamp, r.tree_count,\n"
          ++ "                " ++ pairCountText ++ "\n"
          ++ "         FROM runs r\n"
          ++ "         ORDER BY r.timestamp DESC, r.run_id DESC",
        [⟨"r.run_id", .runs, "run_id"⟩, ⟨"r.run_hash", .runs, "run_hash"⟩,
          ⟨"r.name", .runs, "name"⟩, ⟨"r.timestamp", .runs, "timestamp"⟩,
          ⟨"r.tree_count", .runs, "tree_count"⟩, ⟨"s.run_id", .pairs, "run_id"⟩]⟩
  | .run _ =>
      ⟨"SELECT run_id FROM runs WHERE run_id = ?1", [⟨"run_id", .runs, "run_id"⟩]⟩
  | .results _ =>
      ⟨"SELECT file_a, file_b, edit_distance, similarity\n"
          ++ "         FROM similarities WHERE run_id = ?1\n"
          ++ "         ORDER BY file_a, file_b",
        [⟨"file_a", .pairs, "file_a"⟩, ⟨"file_b", .pairs, "file_b"⟩,
          ⟨"edit_distance", .pairs, "edit_distance"⟩, ⟨"similarity", .pairs, "similarity"⟩,
          ⟨"run_id", .pairs, "run_id"⟩]⟩
  | .files _ =>
      ⟨"SELECT file FROM run_files WHERE run_id = ?1 ORDER BY position",
        [⟨"file", .files, "file"⟩, ⟨"run_id", .files, "run_id"⟩,
          ⟨"position", .files, "position"⟩]⟩

end Query

def Table.select (table : Table) (keys : List String) (rows : List (List Cell)) : Answer :=
  ⟨keys.map (fun key => (table.columnOf key).name),
    rows.map (fun row => keys.map (fun key => table.at? key row)), table.isWhole⟩

namespace Store

/-- Whether a result belongs to a run. -/
def belongs (store : Store) (run pair : List Cell) : Bool :=
  let left := store.pairs.columnOf "run_id"
  let right := store.runs.columnOf "run_id"
  let convert := if left.affinity.isNumeric || right.affinity.isNumeric
    then Affinity.numeric.keep else id
  (convert (store.pairs.at? "run_id" pair)).agrees left.collation
    (convert (store.runs.at? "run_id" run))

/-- Number of results of a run. -/
def pairCount (store : Store) (run : List Cell) : Nat :=
  store.pairs.rows.countP (store.belongs run)

/-- The columns of a run that are listed as they are. -/
def listedKeys : List String :=
  ["run_id", "run_hash", "name", "timestamp", "tree_count"]

def listedColumns (store : Store) : List String :=
  listedKeys.map (fun key => (store.runs.columnOf key).name) ++ [Query.pairCountText]

def listedRow (store : Store) (run : List Cell) : List Cell :=
  listedKeys.map (fun key => store.runs.at? key run) ++ [.integer (store.pairCount run)]

def answer (store : Store) (query : Query) : Except QuestionFault Answer := do
  query.question.check store
  match query with
  | .runs =>
      if !store.runs.isWhole || !store.pairs.isWhole then throw .illegible
      let rows := store.runs.sortedBy [("timestamp", true), ("run_id", true)] store.runs.rows
      return ⟨store.listedColumns, rows.map store.listedRow, true⟩
  | .run runId => return store.runs.select ["run_id"] (store.runs.rowsOf runId)
  | .results runId =>
      return store.pairs.select ["file_a", "file_b", "edit_distance", "similarity"]
        (store.pairs.sortedBy [("file_a", false), ("file_b", false)] (store.pairs.rowsOf runId))
  | .files runId =>
      return store.files.select ["file"]
        (store.files.sortedBy [("position", false)] (store.files.rowsOf runId))

end Store

end Likeness
