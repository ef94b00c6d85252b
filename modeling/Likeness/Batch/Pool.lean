import Likeness.Batch.Ledger

/-!
# A pool of workers

A fixed number of workers share a counter, a cancel flag and a queue to the ledger.  Each
worker repeats four atomic steps: it looks at the flag and leaves if it is set; it claims the
next number from the counter and leaves if there is no such pair; it compares the pair; it
sends its report.  The ledger takes reports from the front of the queue.  The flag may be set
at any moment and stays set.

* `Pool.act` performs one step; `Pool.run` performs a list of them, so that a list of
  actions is an interleaving of the workers, of the ledger and of the cancelling side.
* `Pool.isDone` holds when all workers have left and the queue is empty; `Pool.outcome`
  closes the ledger.
* `Pool.drive` is the interleaving in which a report is taken as soon as it is sent and the
  first worker that has not left goes on.
-/

namespace Likeness
namespace Pool

/-- Where a worker is. -/
inductive Phase
  /-- About to look at the cancel flag. -/
  | ready
  /-- About to claim a number. -/
  | cleared
  /-- Comparing the pair with this number. -/
  | comparing (pair : Nat)
  /-- About to send a report. -/
  | sending (report : Report)
  /-- Gone. -/
  | left

/-- What a pool works on. -/
structure Work where
  treeCount : Nat
  pairs : Array Pairing
  workers : Nat
  /-- Progress is shown after so many reports; at least one. -/
  every : Nat
  /-- What comparing a pair comes to. -/
  verdict : Pairing → Verdict

/-- The shared state and the phases of the workers. -/
structure State where
  next : Nat
  cancelled : Bool
  phases : List Phase
  queue : List Report
  ledger : Ledger

/-- An atomic step of a worker, of the ledger, or of the cancelling side. -/
inductive Action
  | look (worker : Nat)
  | claim (worker : Nat)
  | compare (worker : Nat)
  | send (worker : Nat)
  | receive
  | cancel
deriving DecidableEq, Repr

/-- The state before the first step. -/
def start (work : Work) (cancelled : Bool) : State :=
  ⟨0, cancelled, List.replicate work.workers .ready, [],
    Ledger.empty work.treeCount work.pairs.size⟩

/-- A worker enters another phase. -/
def State.enter (state : State) (worker : Nat) (phase : Phase) : State :=
  { state with phases := state.phases.set worker phase }

/-- One step, if the worker is in the phase for it. -/
def act (work : Work) (state : State) : Action → Option State
  | .look worker =>
      match state.phases[worker]? with
      | some .ready => some (state.enter worker (if state.cancelled then .left else .cleared))
      | _ => none
  | .claim worker =>
      match state.phases[worker]? with
      | some .cleared =>
          let phase := if state.next < work.pairs.size then .comparing state.next else .left
          some { state.enter worker phase with next := state.next + 1 }
      | _ => none
  | .compare worker =>
      match state.phases[worker]? with
      | some (.comparing number) =>
          match work.pairs[number]? with
          | some pair => some (state.enter worker (.sending ⟨number, work.verdict pair⟩))
          | none => none
      | _ => none
  | .send worker =>
      match state.phases[worker]? with
      | some (.sending report) =>
          some { state.enter worker .ready with queue := state.queue ++ [report] }
      | _ => none
  | .receive =>
      match state.queue with
      | report :: queue =>
          some { state with
            queue
            ledger := state.ledger.receive work.pairs work.every report }
      | [] => none
  | .cancel => some { state with cancelled := true }

/-- The steps of an interleaving, one after the other, if each is possible. -/
def run (work : Work) (state : State) : List Action → Option State
  | [] => some state
  | action :: actions => (act work state action).bind (fun state => run work state actions)

def Phase.isLeft : Phase → Bool
  | .left => true
  | _ => false

/-- All workers have left and all reports have been taken. -/
def State.isDone (state : State) : Bool :=
  state.phases.all Phase.isLeft && state.queue.isEmpty

def State.outcome (state : State) (work : Work) : Outcome :=
  state.ledger.close work.pairs work.workers state.next state.cancelled

section Driving

/-- The step that a worker in a given phase takes, unless it has left. -/
def Phase.action? (worker : Nat) : Phase → Option Action
  | .ready => some (.look worker)
  | .cleared => some (.claim worker)
  | .comparing _ => some (.compare worker)
  | .sending _ => some (.send worker)
  | .left => none

/-- The step of the first worker that has not left; the workers are numbered from `worker`
on. -/
def firstAction? (worker : Nat) : List Phase → Option Action
  | [] => none
  | phase :: phases =>
      match phase.action? worker with
      | some action => some action
      | none => firstAction? (worker + 1) phases

/-- The next step: take a report, or else let the first worker go on. -/
def State.nextAction? (state : State) : Option Action :=
  if state.queue.isEmpty then firstAction? 0 state.phases else some .receive

/-- The number of the pair that is about to be compared. -/
def State.comparing? (state : State) (worker : Nat) : Option Nat :=
  match state.phases[worker]? with
  | some (.comparing number) => some number
  | _ => none

/-- One step of the driven interleaving.  The flag is set just before a pair is compared for
which `raises` holds. -/
def advance (work : Work) (raises : Pairing → Bool) (state : State) : Option State := do
  let action ← state.nextAction?
  let raised := match action with
    | .compare worker =>
        ((state.comparing? worker).bind (work.pairs[·]?)).any raises
    | _ => false
  let state ← if raised then act work state .cancel else some state
  act work state action

/-- Advances until nothing is left to do, at most `fuel` times. -/
def drive (work : Work) (raises : Pairing → Bool) : Nat → State → State
  | 0, state => state
  | fuel + 1, state =>
      match advance work raises state with
      | none => state
      | some state => drive work raises fuel state

/-- Enough steps for every pair to be claimed, compared, sent and taken, and for every worker
to leave. -/
def Work.steps (work : Work) : Nat :=
  5 * work.pairs.size + 2 * work.workers

end Driving

end Pool

/-- Number of workers for a number of pairs: as many as asked for or available, but not more
than pairs, and at least one. -/
def workerCount (available : Nat) (requested? : Option Nat) (pairCount : Nat) : Nat :=
  max (min (requested?.getD available) pairCount) 1

/-- How a batch is run. -/
structure PoolSettings where
  /-- Workers that the machine has room for. -/
  available : Nat
  requested? : Option Nat
  progressEvery : Nat
  /-- Whether the batch is cancelled from the start. -/
  cancelled : Bool
deriving Repr, Inhabited

/-- The work of comparing all pairs of some trees. -/
def pairwiseWork (settings : PoolSettings) (verdict : Pairing → Verdict) (trees : List Tree) :
    Pool.Work :=
  let pairs := (Pairing.all trees).toArray
  ⟨trees.length, pairs, workerCount settings.available settings.requested? pairs.size,
    max settings.progressEvery 1, verdict⟩

/-- Compares all pairs of some trees.  `raises` says during which comparisons the batch is
cancelled. -/
def comparePairs (settings : PoolSettings) (raises : Pairing → Bool)
    (verdict : Pairing → Verdict) (trees : List Tree) : Outcome :=
  let work := pairwiseWork settings verdict trees
  (Pool.drive work raises work.steps (Pool.start work settings.cancelled)).outcome work

end Likeness
