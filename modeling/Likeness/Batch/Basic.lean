import Likeness.Batch.Pool

/-!
# Finished batches

A batch names its trees by identifiers, whose order is that of the rows and columns of both
matrices.  `Batch.assemble` puts the outcome of a run and the identifiers together and sums it
up; the most similar pair is the first one, in the order of places, that no other exceeds.

Results and failures address trees by their places.  A record addresses them by their
identifiers, and there is none for a place without an identifier.
-/

namespace Likeness

/-- The settings of a comparison. -/
structure Params where
  /-- Number of workers, if it is not left to the machine. -/
  workers? : Option Nat
  /-- Progress is shown after so many pairs. -/
  progressEvery : Nat
  /-- The names of input files end like this. -/
  suffix : String
  /-- Whether equivalence ignores the names of identifiers. -/
  ignoreNames : Bool
deriving DecidableEq, Repr

/-- The settings that hold unless others are asked for. -/
def Params.standard : Params :=
  ⟨none, 10, ".ast.json", false⟩

instance : Inhabited Params := ⟨Params.standard⟩

/-- The score of two named trees. -/
structure Record where
  file1 : String
  file2 : String
  distance : Nat
  similarity : Binary64
deriving DecidableEq, Repr, Inhabited

/-- A pair of named trees without a score. -/
structure FailureRecord where
  file1 : String
  file2 : String
  kind : FailureKind
  message : String
deriving DecidableEq, Repr, Inhabited

/-- A file that was left out of a batch. -/
structure Skipped where
  file : String
  reason : String
deriving DecidableEq, Repr, Inhabited

/-- A batch in numbers. -/
structure Summary where
  treeCount : Nat
  pairCount : Nat
  completed : Nat
  failed : Nat
  skippedFiles : Nat
  workerCount : Nat
  elapsedMs : Nat
  meanSimilarity : Binary64
  best? : Option Record
deriving DecidableEq, Repr, Inhabited

/-- Whether every pair has a score. -/
def Summary.isComplete (s : Summary) : Bool :=
  s.failed == 0 && s.completed == s.pairCount

/-- A finished batch. -/
structure Batch where
  identifiers : List String
  /-- In the order of the reports. -/
  results : List PairResult
  failures : List Failure
  skipped : List Skipped
  similarity : SymmetricMatrix Binary64
  distance : SymmetricMatrix Nat
  summary : Summary
deriving Repr, Inhabited

/-- Whether one pair stands before another, or at the same place. -/
def PairResult.notAfter (a b : PairResult) : Bool :=
  a.i < b.i || (a.i == b.i && a.j ≤ b.j)

/-- Results in the order of places; results of the same pair keep their order. -/
def sortResults (results : List PairResult) : List PairResult :=
  results.mergeSort PairResult.notAfter

/-- The better one of the best result so far and the next one; the next one has to exceed the
best, or not to be comparable with it. -/
def better (best? : Option PairResult) (next : PairResult) : Option PairResult :=
  match best? with
  | none => some next
  | some best => if next.similarity.le best.similarity then some best else some next

/-- The most similar pair, the first one in the order of places. -/
def mostSimilar? (results : List PairResult) : Option PairResult :=
  (sortResults results).foldl better none

/-- Mean similarity of some results, added up in their order; zero if there are none. -/
def meanSimilarity (results : List PairResult) : Binary64 :=
  if results.isEmpty then .zero
  else
    (results.foldl (fun sum r => sum.add r.similarity) Binary64.zero).div
      (.ofNat results.length)

namespace Batch

/-- Results in the order of places. -/
def sortedResults (batch : Batch) : List PairResult :=
  sortResults batch.results

def record? (identifiers : List String) (r : PairResult) : Option Record := do
  let file1 ← identifiers[r.i]?
  let file2 ← identifiers[r.j]?
  return ⟨file1, file2, r.distance, r.similarity⟩

def failureRecord? (identifiers : List String) (f : Failure) : Option FailureRecord := do
  let file1 ← identifiers[f.i]?
  let file2 ← identifiers[f.j]?
  return ⟨file1, file2, f.kind, f.message⟩

/-- The records of all results, in the order of the reports. -/
def records? (batch : Batch) : Option (List Record) :=
  batch.results.mapM (record? batch.identifiers)

def failureRecords? (batch : Batch) : Option (List FailureRecord) :=
  batch.failures.mapM (failureRecord? batch.identifiers)

def assemble (identifiers : List String) (outcome : Outcome) (elapsedMs : Nat) : Batch :=
  { identifiers
    results := outcome.results
    failures := outcome.failures
    skipped := []
    similarity := outcome.similarity
    distance := outcome.distance
    summary :=
      { treeCount := identifiers.length
        pairCount := outcome.pairCount
        completed := outcome.results.length
        failed := outcome.failures.length
        skippedFiles := 0
        workerCount := outcome.workerCount
        elapsedMs
        meanSimilarity := meanSimilarity outcome.results
        best? := (mostSimilar? outcome.results).bind (record? identifiers) } }

end Batch

section Collections

/-- Named trees in the order of their names. -/
abbrev Collection := List (String × Tree)

/-- Adds a named tree at its place; a tree of the same name is replaced. -/
def Collection.insert (name : String) (tree : Tree) : Collection → Collection
  | [] => [(name, tree)]
  | (other, there) :: rest =>
      if name < other then (name, tree) :: (other, there) :: rest
      else if name = other then (name, tree) :: rest
      else (other, there) :: Collection.insert name tree rest

/-- Adds named trees one after the other. -/
def Collection.ofList (entries : List (String × Tree)) : Collection :=
  entries.foldl (fun trees (name, tree) => Collection.insert name tree trees) []

end Collections

/-- Too few trees to compare. -/
structure TooFew where
  found : Nat
deriving DecidableEq, Repr

/-- The wording of the fault. -/
def TooFew.message (fault : TooFew) : String :=
  "need at least two AST files for comparison (found " ++ toString fault.found ++ ")"

/-- The outcome of comparing all pairs of at least two trees. -/
def compareTrees (settings : PoolSettings) (raises : Pairing → Bool)
    (verdict : Pairing → Verdict) (trees : List Tree) : Except TooFew Outcome :=
  if trees.length < 2 then .error ⟨trees.length⟩
  else .ok (comparePairs settings raises verdict trees)

/-- The score of every pair. -/
def scoreOf (pair : Pairing) : Verdict :=
  .ok (scorePair pair.left pair.right)

def PoolSettings.ofParams (available : Nat) (params : Params) (cancelled : Bool) :
    PoolSettings :=
  ⟨available, params.workers?, params.progressEvery, cancelled⟩

def compareCollection (available : Nat) (params : Params) (cancelled : Bool)
    (trees : Collection) (elapsedMs : Nat) : Except TooFew Batch :=
  (compareTrees (.ofParams available params cancelled) (fun _ => false) scoreOf
      (trees.map Prod.snd)).map
    (fun outcome => Batch.assemble (trees.map Prod.fst) outcome elapsedMs)

end Likeness
