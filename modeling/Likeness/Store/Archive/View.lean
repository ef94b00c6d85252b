import Likeness.Store.Answer
import Likeness.Store.Archive

/-!
# Stores in archives

A question about a store is answered from those rows of its tables that it comes across.  What
is wrong with other parts of the file is not noticed.
-/

namespace Likeness
namespace Archive

open Image

section Tables

/-- What stands for a table that is kept elsewhere: one without columns. -/
def foreignTable (name : String) : Table :=
  .ofDefinition ⟨name, [], [], [], [], none, .abort, false, false⟩

/-- The table in a catalog for a part, with the rows that are read off it. -/
def partTable (archive : Archive) (part : Part)
    (read : CatalogTable → List (List Cell) × Bool) : Table :=
  match archive.catalog.table? part.name with
  | some table =>
      let (rows, isWhole) := read table
      ⟨table.definition, rows, isWhole⟩
  | none => foreignTable part.name

def allRows (image : Image) (table : CatalogTable) : List (List Cell) × Bool :=
  scan image table (List.range table.definition.columns.length)

/-- The rows of a table for a run, of which some columns are needed. -/
def rowsOfRun (image : Image) (runId : String) (keys : List String) (table : CatalogTable) :
    List (List Cell) × Bool :=
  let definition := table.definition
  match definition.place? "run_id" with
  | none => ([], true)
  | some place =>
      let affinity := (definition.column place).affinity
      let wanted : Cell :=
        if affinity.isNumeric then Affinity.numeric.keep (.text runId) else .text runId
      find image table (placesOf definition keys) place wanted

end Tables

section Views

def isPart (table : CatalogTable) : Bool :=
  Part.all.any (fun part => Catalog.sameName table.definition.name part.name)

def store (archive : Archive) : Store :=
  let table := fun part => archive.partTable part (allRows archive.image)
  ⟨table .runs, table .files, table .pairs,
    (archive.catalog.tables.filter (fun table => !isPart table)).map (fun table =>
      let (rows, isWhole) := allRows archive.image table
      ⟨table.definition, rows, isWhole⟩)⟩

/-- A store whose tables are kept elsewhere. -/
def foreignStore : Store :=
  ⟨foreignTable Part.runs.name, foreignTable Part.files.name, foreignTable Part.pairs.name, []⟩

/-- A store with what is needed to answer a question about a run from some columns of a part. -/
def storeOfRun (archive : Archive) (runId : String) (part : Part) (keys : List String) : Store :=
  foreignStore.setTable part (archive.partTable part (rowsOfRun archive.image runId keys))

/-- The rows of results for some runs. -/
def rowsOfRuns (image : Image) (runs : Table) (table : CatalogTable) : List (List Cell) × Bool :=
  let definition := table.definition
  match definition.place? "run_id" with
  | none => ([], true)
  | some place =>
      let column := definition.column place
      let isNumeric := column.affinity.isNumeric || (runs.columnOf "run_id").affinity.isNumeric
      let convert := if isNumeric then Affinity.numeric.keep else id
      let wanted := (runs.rows.map (fun row => convert (runs.at? "run_id" row))).eraseDupsBy
        (fun a b => a.agrees column.collation b)
      if wanted.isEmpty then ([], true)
      else if (keyTrees table place).isEmpty && definition.number? ≠ some place then
        scan image table [place]
      else
        wanted.foldl (fun (rows, isWhole) wanted =>
          let (found, isFound) := find image table [] place wanted
          (rows ++ found, isWhole && isFound)) ([], true)

/-- A store with what is needed to list the runs. -/
def storeOfList (archive : Archive) : Store :=
  let image := archive.image
  let runs := archive.partTable .runs (fun table =>
    scan image table (placesOf table.definition
      ["run_id", "run_hash", "name", "timestamp", "tree_count"]))
  ⟨runs, foreignTable Part.files.name, archive.partTable .pairs (rowsOfRuns image runs), []⟩

/-- A store with what is needed to answer a question. -/
def storeFor (archive : Archive) : Query → Store
  | .runs => archive.storeOfList
  | .run runId => archive.storeOfRun runId .runs []
  | .results runId =>
      archive.storeOfRun runId .pairs ["file_a", "file_b", "edit_distance", "similarity"]
  | .files runId => archive.storeOfRun runId .files ["file", "position"]

end Views

def answer (archive : Archive) (query : Query) : Except QuestionFault Answer :=
  (archive.storeFor query).answer query

end Archive
end Likeness
