import Likeness.Batch.Basic
import Likeness.Json.Record
import Likeness.Json.Value

/-!
# Batches as JSON documents

The documents of parameters, records, failures, summaries, matrices and whole reports, and
the layouts by which they are read again.  Member names and their order are those of the
documents; a member whose value may be absent may be missing from an object.
-/

namespace Likeness

open Json

section Parameters

def Params.document (p : Params) : Value :=
  .object
    [("workers", .ofOption .natural p.workers?), ("progress_every", .natural p.progressEvery),
      ("file_suffix", .text p.suffix), ("ignore_variable_names", .flag p.ignoreNames)]

def Params.layout (_budget : Nat) : Layout Params :=
  ⟨"struct ComparisonParams", [Option Nat, Nat, String, Bool],
    .cons ⟨"workers", nullable count, .unwritten none⟩
      (.cons ⟨"progress_every", count, .fault⟩
        (.cons ⟨"file_suffix", text, .fault⟩
          (.cons ⟨"ignore_variable_names", flag, .fault⟩ .none))),
    fun (workers?, progressEvery, suffix, ignoreNames, ()) =>
      ⟨workers?, progressEvery, suffix, ignoreNames⟩⟩

end Parameters

section Records

def Record.document (r : Record) : Value :=
  .object
    [("file1", .text r.file1), ("file2", .text r.file2), ("editDistance", .natural r.distance),
      ("similarity", .real r.similarity)]

def Record.layout (_budget : Nat) : Layout Record :=
  ⟨"struct PairRecord", [String, String, Nat, Binary64],
    .cons ⟨"file1", text, .fault⟩
      (.cons ⟨"file2", text, .fault⟩
        (.cons ⟨"editDistance", count, .fault⟩
          (.cons ⟨"similarity", real, .fault⟩ .none))),
    fun (file1, file2, distance, similarity, ()) => ⟨file1, file2, distance, similarity⟩⟩

def FailureKind.name : FailureKind → String
  | .panicked => "panicked"
  | .workerLost => "worker_lost"
  | .cancelled => "cancelled"

def FailureKind.reader : Reader FailureKind :=
  choice ([FailureKind.panicked, .workerLost, .cancelled].map (fun kind => (kind.name, kind)))

def Failure.document (f : Failure) : Value :=
  .object
    [("index_i", .natural f.i), ("index_j", .natural f.j), ("kind", .text f.kind.name),
      ("message", .text f.message)]

def Failure.layout (_budget : Nat) : Layout Failure :=
  ⟨"struct TaskFailure", [Nat, Nat, FailureKind, String],
    .cons ⟨"index_i", count, .fault⟩
      (.cons ⟨"index_j", count, .fault⟩
        (.cons ⟨"kind", FailureKind.reader, .fault⟩
          (.cons ⟨"message", text, .fault⟩ .none))),
    fun (i, j, kind, message, ()) => ⟨i, j, kind, message⟩⟩

def FailureRecord.document (f : FailureRecord) : Value :=
  .object
    [("file1", .text f.file1), ("file2", .text f.file2), ("kind", .text f.kind.name),
      ("message", .text f.message)]

/-- How a failure with names is read. -/
def FailureRecord.layout (_budget : Nat) : Layout FailureRecord :=
  ⟨"struct FailureRecord", [String, String, FailureKind, String],
    .cons ⟨"file1", text, .fault⟩
      (.cons ⟨"file2", text, .fault⟩
        (.cons ⟨"kind", FailureKind.reader, .fault⟩
          (.cons ⟨"message", text, .fault⟩ .none))),
    fun (file1, file2, kind, message, ()) => ⟨file1, file2, kind, message⟩⟩

/-- The document of a file that was left out. -/
def Skipped.document (s : Skipped) : Value :=
  .object [("file", .text s.file), ("reason", .text s.reason)]

/-- How a file that was left out is read. -/
def Skipped.layout (_budget : Nat) : Layout Skipped :=
  ⟨"struct SkippedFile", [String, String],
    .cons ⟨"file", text, .fault⟩ (.cons ⟨"reason", text, .fault⟩ .none),
    fun (file, reason, ()) => ⟨file, reason⟩⟩

end Records

section Summaries

def Summary.document (s : Summary) : Value :=
  .object
    [("tree_count", .natural s.treeCount), ("task_count", .natural s.pairCount),
      ("completed", .natural s.completed), ("failed", .natural s.failed),
      ("skipped_files", .natural s.skippedFiles), ("worker_count", .natural s.workerCount),
      ("elapsed_ms", .natural s.elapsedMs), ("mean_similarity", .real s.meanSimilarity),
      ("max_similarity", .ofOption Record.document s.best?)]

def Summary.layout (budget : Nat) : Layout Summary :=
  ⟨"struct BatchSummary", [Nat, Nat, Nat, Nat, Nat, Nat, Nat, Binary64, Option Record],
    .cons ⟨"tree_count", count, .fault⟩
      (.cons ⟨"task_count", count, .fault⟩
        (.cons ⟨"completed", count, .fault⟩
          (.cons ⟨"failed", count, .fault⟩
            (.cons ⟨"skipped_files", count, .fault⟩
              (.cons ⟨"worker_count", count, .fault⟩
                (.cons ⟨"elapsed_ms", natural64, .fault⟩
                  (.cons ⟨"mean_similarity", real, .fault⟩
                    (.cons ⟨"max_similarity", nullable ((Record.layout budget).read budget),
                        .unwritten none⟩ .none)))))))),
    fun (treeCount, pairCount, completed, failed, skippedFiles, workerCount, elapsedMs,
        meanSimilarity, best?, ()) =>
      { treeCount, pairCount, completed, failed, skippedFiles, workerCount, elapsedMs,
        meanSimilarity, best? }⟩

def SymmetricMatrix.document (m : SymmetricMatrix Nat) : Value :=
  .object
    [("size", .natural m.size), ("cells", .list (m.cells.toList.map Value.natural))]

/-- How a matrix of distances is read. -/
def SymmetricMatrix.layout (budget : Nat) : Layout (SymmetricMatrix Nat) :=
  ⟨"struct SymmetricMatrix", [Nat, List Nat],
    .cons ⟨"size", count, .fault⟩ (.cons ⟨"cells", listOf budget count, .fault⟩ .none),
    fun (size, cells, ()) => ⟨size, cells.toArray⟩⟩

end Summaries

section Reports

/-- The report of a batch. -/
structure BatchReport where
  version : String
  generatedAt : String
  params : Params
  summary : Summary
  identifiers : List String
  results : List Record
  failures : List FailureRecord
  skipped : List Skipped
deriving DecidableEq, Repr

def BatchReport.document (r : BatchReport) : Value :=
  .object
    [("version", .text r.version), ("generated_at", .text r.generatedAt),
      ("parameters", r.params.document), ("summary", r.summary.document),
      ("identifiers", .list (r.identifiers.map Value.text)),
      ("results", .list (r.results.map Record.document)),
      ("failures", .list (r.failures.map FailureRecord.document)),
      ("skipped", .list (r.skipped.map Skipped.document))]

def BatchReport.layout (budget : Nat) : Layout BatchReport :=
  ⟨"struct BatchReport",
    [String, String, Params, Summary, List String, List Record, List FailureRecord,
      List Skipped],
    .cons ⟨"version", text, .fault⟩
      (.cons ⟨"generated_at", text, .fault⟩
        (.cons ⟨"parameters", (Params.layout budget).read budget, .fault⟩
          (.cons ⟨"summary", (Summary.layout budget).read budget, .fault⟩
            (.cons ⟨"identifiers", listOf budget text, .fault⟩
              (.cons ⟨"results", listOf budget ((Record.layout budget).read budget), .fault⟩
                (.cons ⟨"failures",
                    listOf budget ((FailureRecord.layout budget).read budget), .fault⟩
                  (.cons ⟨"skipped",
                    listOf budget ((Skipped.layout budget).read budget), .fault⟩ .none))))))),
    fun (version, generatedAt, params, summary, identifiers, results, failures, skipped, ()) =>
      { version, generatedAt, params, summary, identifiers, results, failures, skipped }⟩

/-- Reads a whole text by a layout. -/
def Json.Layout.parse {α : Type} (layout : Nat → Layout α) (source : String) :
    Except Rejection α :=
  readWhole (fun budget => (layout budget).read budget) source

def reportVersion : String := "0.1.0"

/-- The report of a batch that is written some seconds after the start of 1970, unless a
place has no identifier. -/
def Batch.report? (batch : Batch) (params : Params) (generatedAt : String) :
    Option BatchReport := do
  let results ← batch.records?
  let failures ← batch.failureRecords?
  return ⟨reportVersion, generatedAt, params, batch.summary, batch.identifiers, results,
    failures, batch.skipped⟩

end Reports

end Likeness
