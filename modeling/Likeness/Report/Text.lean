import Likeness.Batch.Basic
import Likeness.Binary64.Text

/-!
# Printed reports

What is shown of a batch: a summary, the most similar pairs, the failures and the files that
were left out, and a table of stored runs.  Each function yields the lines with their line
feeds; it yields nothing where a place has no identifier.
-/

namespace Likeness

/-- A stored run. -/
structure RunInfo where
  runId : String
  digest : String
  name? : Option String
  /-- Seconds since the start of 1970. -/
  seconds : Int
  treeCount : Nat
  pairCount : Nat
deriving DecidableEq, Repr, Inhabited

namespace Printed

section Layout

/-- A text with blanks on the right up to a width in characters. -/
def padRight (width : Nat) (s : String) : String :=
  s ++ String.ofList (List.replicate (width - s.length) ' ')

/-- A text with blanks on the left up to a width in characters. -/
def padLeft (width : Nat) (s : String) : String :=
  String.ofList (List.replicate (width - s.length) ' ') ++ s

def line (s : String) : String := s ++ "\n"

end Layout

section Summaries

/-- A part of one as percents with one decimal place. -/
def percent (x : Binary64) : String :=
  (x.mul (.ofNat 100)).fixed 1 ++ "%"

/-- Two names with an arrow between them. -/
def pair (file1 file2 : String) : String :=
  file1 ++ " ↔ " ++ file2

def summary (s : Summary) : String :=
  line "" ++ line "=== Comparison Summary ==="
    ++ line ("Trees: " ++ toString s.treeCount)
    ++ (if 0 < s.skippedFiles then line ("Skipped files: " ++ toString s.skippedFiles) else "")
    ++ line ("Workers: " ++ toString s.workerCount)
    ++ line ""
    ++ line "Results:"
    ++ line ("  Tasks: " ++ toString s.pairCount)
    ++ line ("  Completed: " ++ toString s.completed)
    ++ line ("  Failed: " ++ toString s.failed)
    ++ line ("  Mean similarity: " ++ percent s.meanSimilarity)
    ++ (match s.best? with
        | some best =>
            line ("  Most similar: " ++ pair best.file1 best.file2
              ++ " (" ++ percent best.similarity ++ ")")
        | none => "")
    ++ line ("  Elapsed: " ++ toString s.elapsedMs ++ " ms")

end Summaries

section Results

/-- One record on a line of its own. -/
def record (r : Record) : String :=
  pair r.file1 r.file2 ++ ": similarity=" ++ r.similarity.fixed 4
    ++ " distance=" ++ toString r.distance

/-- Whether one record is shown before another: by descending similarity, in the order of all
bit patterns, then by names. -/
def notAfter (a b : Record) : Bool :=
  if a.similarity.rank = b.similarity.rank then
    if a.file1 = b.file1 then
      !(b.file2 < a.file2)
    else a.file1 < b.file1
  else b.similarity.rank < a.similarity.rank

/-- Records with the most similar ones first. -/
def ranked (rs : List Record) : List Record :=
  rs.mergeSort notAfter

/-- The most similar pairs, at most as many as the limit says, and how many are left out. -/
def results (rs : List Record) (limit? : Option Nat) : String :=
  let sorted := ranked rs
  let shown := match limit? with
    | some limit => sorted.take limit
    | none => sorted
  let left := sorted.length - shown.length
  String.join (shown.map (fun r => line (record r)))
    ++ (if left = 0 then "" else line ("... and " ++ toString left ++ " more pairs"))

end Results

section Failures

/-- The name of a kind of failure in printed reports. -/
def failureKind : FailureKind → String
  | .panicked => "Panicked"
  | .workerLost => "WorkerLost"
  | .cancelled => "Cancelled"

/-- The failures of a batch and the files that were left out. -/
def failures? (batch : Batch) : Option String := do
  let failed ← batch.failureRecords?
  let failedLines := failed.map (fun f =>
    line ("  " ++ pair f.file1 f.file2 ++ " [" ++ failureKind f.kind ++ "]: " ++ f.message))
  let skippedLines := batch.skipped.map (fun s => line ("  " ++ s.file ++ ": " ++ s.reason))
  return (if failed.isEmpty then "" else line "" ++ line "Failed comparisons:")
    ++ String.join failedLines
    ++ (if batch.skipped.isEmpty then "" else line "" ++ line "Skipped files:")
    ++ String.join skippedLines

end Failures

section Runs

/-- The longest start of a list of characters that has exactly as many bytes, if there is
one. -/
def takeBytes? : Nat → List Char → Option (List Char)
  | 0, _ => some []
  | _ + 1, [] => none
  | bytes + 1, c :: rest =>
      if c.utf8Size ≤ bytes + 1 then
        (takeBytes? (bytes + 1 - c.utf8Size) rest).map (c :: ·)
      else none

/-- The first twelve bytes of a digest, unless they end inside of a character. -/
def shortDigest? (digest : String) : Option String :=
  (takeBytes? (min digest.utf8ByteSize 12) digest.toList).map String.ofList

def runHead : String :=
  padRight 28 "Run" ++ " " ++ padLeft 6 "Trees" ++ " " ++ padLeft 8 "Pairs" ++ "  "
    ++ padRight 12 "Hash" ++ " Name"

def run? (r : RunInfo) : Option String := do
  let short ← shortDigest? r.digest
  return padRight 28 r.runId ++ " " ++ padLeft 6 (toString r.treeCount) ++ " "
    ++ padLeft 8 (toString r.pairCount) ++ "  " ++ padRight 12 short ++ " "
    ++ r.name?.getD "-"

def runs? (rs : List RunInfo) : Option String :=
  if rs.isEmpty then some (line "No stored runs.")
  else do
    let rows ← rs.mapM run?
    return line runHead ++ String.join (rows.map line)

end Runs

end Printed
end Likeness
