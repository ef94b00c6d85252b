import Likeness.Batch.Pairing
import Likeness.Matrix
import Likeness.Similarity

/-!
# The ledger of a batch

While a batch runs, one ledger collects what the workers report: scores go to the results
and into both matrices, and comparisons that broke off go to the failures.  Each report counts
as completed, and a notice of the progress is given after every so many reports and after the
last one.

When no worker is left the ledger is closed: each pair without a report becomes a failure, and a
last notice says how many results and failures there are.  A pair without a report was cancelled
if the batch was and no worker had claimed it; otherwise its worker was lost.
-/

namespace Likeness

/-- What a comparison came to: a score, or the message it broke off with. -/
abbrev Verdict := Except String Score

/-- A score, addressed by places in the batch. -/
structure PairResult where
  i : Nat
  j : Nat
  distance : Nat
  similarity : Binary64
deriving DecidableEq, Repr, Inhabited

/-- Why a pair has no score. -/
inductive FailureKind
  /-- The comparison itself broke off. -/
  | panicked
  /-- The worker left without reporting. -/
  | workerLost
  /-- The batch was cancelled before the pair was claimed. -/
  | cancelled
deriving DecidableEq, Repr, Inhabited

/-- A pair without a score; its matrix cells keep their first values. -/
structure Failure where
  i : Nat
  j : Nat
  kind : FailureKind
  message : String
deriving DecidableEq, Repr, Inhabited

/-- A worker's message about the pair with a given number. -/
structure Report where
  pair : Nat
  verdict : Verdict

/-- How far a batch has come: reports so far and pairs altogether. -/
structure Progress where
  completed : Nat
  total : Nat
deriving DecidableEq, Repr, Inhabited

/-- What those who wait for a batch are told. -/
inductive Notice
  | progress (reached : Progress)
  | finished (results failures : Nat)
deriving DecidableEq, Repr, Inhabited

namespace Notice

def progress? : Notice → Option Progress
  | .progress reached => some reached
  | .finished _ _ => none

/-- The numbers of results and of failures that a notice tells of. -/
def finished? : Notice → Option (Nat × Nat)
  | .progress _ => none
  | .finished results failures => some (results, failures)

end Notice

namespace SymmetricMatrix

/-- The matrix after a write, whether it was complete or not. -/
def put {α : Type} (m : SymmetricMatrix α) (i j : Nat) (value : α) : SymmetricMatrix α :=
  match m.set i j value with
  | .ok m => m
  | .error m => m

end SymmetricMatrix

/-- What has been reported so far. -/
structure Ledger where
  similarity : SymmetricMatrix Binary64
  distance : SymmetricMatrix Nat
  results : Array PairResult
  failures : Array Failure
  reported : Array Bool
  completed : Nat
  /-- In the order in which they were given. -/
  notices : Array Notice
deriving Repr, Inhabited

namespace Ledger

/-- Nothing has been reported. -/
def empty (treeCount pairCount : Nat) : Ledger :=
  ⟨similarityMatrix treeCount, distanceMatrix treeCount, #[], #[],
    Array.replicate pairCount false, 0, #[]⟩

def enterScore (ledger : Ledger) (pair : Pairing) (score : Score) : Ledger :=
  { ledger with
    similarity := ledger.similarity.put pair.i pair.j score.similarity
    distance := ledger.distance.put pair.i pair.j score.distance
    results := ledger.results.push ⟨pair.i, pair.j, score.distance, score.similarity⟩ }

/-- Enters a comparison that broke off. -/
def enterFailure (ledger : Ledger) (pair : Pairing) (message : String) : Ledger :=
  { ledger with failures := ledger.failures.push ⟨pair.i, pair.j, .panicked, message⟩ }

def enter (ledger : Ledger) (pair : Pairing) : Verdict → Ledger
  | .ok score => ledger.enterScore pair score
  | .error message => ledger.enterFailure pair message

/-- Counts one more report, and tells of the progress if it is time to. -/
def tick (ledger : Ledger) (every total : Nat) : Ledger :=
  let completed := ledger.completed + 1
  let notices :=
    if completed % every = 0 ∨ completed = total then
      ledger.notices.push (.progress ⟨completed, total⟩)
    else ledger.notices
  { ledger with completed, notices }

/-- Takes a report of one of the pairs. -/
def receive (ledger : Ledger) (pairs : Array Pairing) (every : Nat) (report : Report) :
    Ledger :=
  match pairs[report.pair]? with
  | none => ledger
  | some pair =>
      let ledger := ledger.enter pair report.verdict
      let ledger :=
        { ledger with reported := ledger.reported.setIfInBounds report.pair true }
      ledger.tick every pairs.size

/-- The failure of a pair without a report. -/
def unreported (claimed : Nat) (cancelled : Bool) (number : Nat) (pair : Pairing) : Failure :=
  if cancelled && claimed ≤ number then
    ⟨pair.i, pair.j, .cancelled, "batch cancelled before the task started"⟩
  else
    ⟨pair.i, pair.j, .workerLost, "worker exited before reporting a result"⟩

/-- The failures of all pairs without a report. -/
def missing (ledger : Ledger) (pairs : Array Pairing) (claimed : Nat) (cancelled : Bool) :
    List Failure :=
  (pairs.toList.zipIdx.filter (fun (_, number) => !(ledger.reported[number]?.getD false))).map
    (fun (pair, number) => unreported claimed cancelled number pair)

end Ledger

/-- What a batch came to, before its trees are named. -/
structure Outcome where
  pairCount : Nat
  workerCount : Nat
  /-- In the order of the reports. -/
  results : List PairResult
  failures : List Failure
  similarity : SymmetricMatrix Binary64
  distance : SymmetricMatrix Nat
  /-- In the order in which they were given. -/
  notices : List Notice
deriving Repr, Inhabited

namespace Outcome

/-- How far the batch had come each time progress was told of. -/
def progress (outcome : Outcome) : List Progress :=
  outcome.notices.filterMap Notice.progress?

/-- Numbers of results and of failures, as told at the end. -/
def finished (outcome : Outcome) : Nat × Nat :=
  (outcome.notices.findSome? Notice.finished?).getD (0, 0)

end Outcome

/-- Closes a ledger when the workers have left. -/
def Ledger.close (ledger : Ledger) (pairs : Array Pairing) (workers claimed : Nat)
    (cancelled : Bool) : Outcome :=
  let failures :=
    ledger.failures.toList ++ ledger.missing pairs (min claimed pairs.size) cancelled
  { pairCount := pairs.size
    workerCount := workers
    results := ledger.results.toList
    failures
    similarity := ledger.similarity
    distance := ledger.distance
    notices := ledger.notices.toList ++ [.finished ledger.results.size failures.length] }

end Likeness
