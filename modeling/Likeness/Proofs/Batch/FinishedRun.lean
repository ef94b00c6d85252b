import Likeness.Proofs.Batch.Accounts

/-!
# Finished runs

A run is finished when every worker has left and the ledger has taken every report.  Then the
claimed pairs, which are the first ones in row-major order, have been compared once each and have
reported, and all other pairs have been touched by nobody.  What the batch came to is therefore
known up to the order of the reports: the first pairs contribute what their verdicts say, and the
others were cancelled.

**Main statements.**
* `FinishedRun.perm_compared`: which pairs have been compared.
* `FinishedRun.perm_results`, `FinishedRun.failures_eq`, `FinishedRun.perm_broken`: what the
  pairs came to.
* `FinishedRun.started_eq`: without a cancellation all pairs have been started.
-/

namespace Likeness
namespace Pool

theorem filterMap_range_eq_take {α : Type} (l : List α) (n : Nat) :
    (List.range n).filterMap (l[·]?) = l.take n := by
  induction n with
  | zero => rfl
  | succ n ih =>
      rw [List.range_succ, List.filterMap_append, ih, List.take_add_one, filterMap_cons_append,
        List.filterMap_nil, List.append_nil]

/-- An interleaving that has come to its end. -/
structure FinishedRun (work : Work) where
  /-- Whether the flag is set from the start. -/
  cancelled : Bool
  actions : List Action
  last : State
  run_eq : run work (start work cancelled) actions = some last
  isDone : last.isDone = true

namespace FinishedRun

section Definitions

variable {work : Work}

def outcome (r : FinishedRun work) : Outcome :=
  r.last.outcome work

/-- The numbers of the pairs that were compared, in this order. -/
def compared (r : FinishedRun work) : List Nat :=
  observe State.compared? work (start work r.cancelled) r.actions

/-- The pairs that were compared, in this order. -/
def comparedPairs (r : FinishedRun work) : List Pairing :=
  r.compared.filterMap (work.pairs[·]?)

/-- The reports that were taken, in this order. -/
def taken (r : FinishedRun work) : List Report :=
  observe State.taken? work (start work r.cancelled) r.actions

/-- How many pairs were claimed. -/
def started (r : FinishedRun work) : Nat :=
  min r.last.next work.pairs.size

/-- The failures of the comparisons that broke off, in the order of the reports. -/
def broken (r : FinishedRun work) : List Failure :=
  r.last.ledger.failures.toList

/-- The run of some actions that come to an end. -/
def ofActions (work : Work) (cancelled : Bool) (actions : List Action)
    (done : (run work (start work cancelled) actions).any State.isDone = true) :
    FinishedRun work where
  cancelled := cancelled
  actions := actions
  last := (run work (start work cancelled) actions).get (Option.isSome_of_any done)
  run_eq := (Option.some_get _).symm
  isDone := Option.get_of_any_eq_true _ _ done

/-- The flag is never set. -/
def Undisturbed (r : FinishedRun work) : Prop :=
  r.cancelled = false ∧ .cancel ∉ r.actions

theorem Undisturbed.cancelled_last {r : FinishedRun work} (h : r.Undisturbed) :
    r.last.cancelled = false := by
  rw [← Bool.not_eq_true, cancelled_of_run r.run_eq, start]
  rintro (flag | step)
  · rw [h.1] at flag
    cases flag
  · exact h.2 step

theorem started_le (r : FinishedRun work) : r.started ≤ work.pairs.size :=
  Nat.min_le_right _ _

theorem eq_left_of_mem (r : FinishedRun work) {phase : Phase} (mem : phase ∈ r.last.phases) :
    phase = .left := by
  have done := r.isDone
  rw [State.isDone, Bool.and_eq_true, List.all_eq_true] at done
  have gone := done.1 phase mem
  cases phase with
  | left => rfl
  | _ => cases gone

theorem queue_eq_nil (r : FinishedRun work) : r.last.queue = [] := by
  have done := r.isDone
  rw [State.isDone, Bool.and_eq_true, List.isEmpty_iff] at done
  exact done.2

theorem filterMap_phases_eq_nil {α : Type} (r : FinishedRun work) {f : Phase → Option α}
    (left : f .left = none) : r.last.phases.filterMap f = [] := by
  rw [List.filterMap_eq_nil_iff]
  intro phase mem
  rw [r.eq_left_of_mem mem, left]

end Definitions

section Accounts

variable {trees : List Tree} {workers every : Nat} {verdict : Pairing → Verdict}
  (r : FinishedRun (.ofTrees workers every verdict trees))

theorem accounts :
    Accounts trees (.ofTrees workers every verdict trees) r.last r.compared r.taken := by
  have accounts := (Accounts.of_start r.cancelled).of_run r.run_eq
  rwa [List.nil_append, List.nil_append] at accounts

theorem perm_compared : r.compared.Perm (List.range r.started) := by
  have numbers := r.accounts.numbers
  rwa [r.filterMap_phases_eq_nil rfl, List.append_nil] at numbers

theorem perm_taken :
    r.taken.Perm ((Work.ofTrees workers every verdict trees).reports r.last.next) := by
  have reports := r.accounts.reports
  rwa [r.filterMap_phases_eq_nil rfl, r.queue_eq_nil, List.append_nil, List.append_nil] at reports

theorem take_next :
    (Pairing.all trees).take r.last.next = (Pairing.all trees).take r.started := by
  rw [started, List.take_eq_take_min, Work.pairs_ofTrees, List.size_toArray]

theorem perm_comparedPairs : r.comparedPairs.Perm ((Pairing.all trees).take r.started) := by
  have numbers := r.perm_compared.filterMap ((Pairing.all trees)[·]?)
  rw [filterMap_range_eq_take] at numbers
  simpa [comparedPairs, Work.ofTrees] using numbers

/-- What is read off the reports that were taken can be read off the claimed pairs. -/
theorem perm_filterMap_taken {α : Type} (f : Pairing → Verdict → Option α) :
    (r.taken.filterMap (fun report => (Pairing.all trees).toArray[report.pair]?.bind
        (fun pair => f pair report.verdict))).Perm
      (((Pairing.all trees).take r.started).filterMap (fun pair => f pair (verdict pair))) := by
  rw [← r.take_next]
  exact (r.perm_taken.filterMap _).trans
    (.of_eq (Work.filterMap_reports (.ofTrees workers every verdict trees) f _))

theorem perm_results :
    r.outcome.results.Perm
      (((Pairing.all trees).take r.started).filterMap
        (fun pair => pair.result? (verdict pair))) :=
  .trans (.of_eq r.accounts.records.results) (r.perm_filterMap_taken Pairing.result?)

theorem perm_broken :
    r.broken.Perm
      (((Pairing.all trees).take r.started).filterMap
        (fun pair => pair.breakage? (verdict pair))) :=
  .trans (.of_eq r.accounts.records.failures) (r.perm_filterMap_taken Pairing.breakage?)

theorem mem_taken_iff {k : Nat} :
    k ∈ r.taken.map Report.pair ↔ k < r.started := by
  rw [(r.perm_taken.map Report.pair).mem_iff, Work.map_pair_reports, List.mem_range, started]

variable (hworkers : 1 ≤ workers)
include hworkers

/-- With a worker there, a pair can be left over only if the batch is cancelled. -/
theorem cancelled_of_started_lt (h : r.started < (Pairing.all trees).length) :
    r.last.cancelled = true := by
  have length := r.accounts.workers
  -- any worker will do, since every one has left because of the flag or of the end
  obtain ⟨phase, mem⟩ := List.exists_mem_of_length_pos (Nat.lt_of_lt_of_eq hworkers length.symm)
  rw [r.eq_left_of_mem mem] at mem
  rcases r.accounts.left mem with flag | beyond
  · exact flag
  · rw [started, Nat.min_eq_right beyond, Work.pairs_ofTrees, List.size_toArray] at h
    exact absurd h (Nat.lt_irrefl _)

/-- The failures: first those of comparisons that broke off, then all pairs that were not started,
in their order. -/
theorem failures_eq :
    r.outcome.failures =
      r.broken ++ ((Pairing.all trees).drop r.started).map Failure.ofCancelled := by
  have reported : ∀ k, k < (Pairing.all trees).toArray.size →
      r.last.ledger.reported[k]? = some (decide (k < r.started)) := by
    intro k hk
    rw [r.accounts.records.reported k hk]
    simp only [r.mem_taken_iff]
  have others := Ledger.missing_eq reported r.started_le
    (fun h => r.cancelled_of_started_lt hworkers h)
  rw [← others]
  rfl

theorem started_eq (h : r.Undisturbed) : r.started = (Pairing.all trees).length := by
  refine Nat.le_antisymm r.started_le (Nat.le_of_not_lt ?_)
  intro less
  have flag := r.cancelled_of_started_lt hworkers less
  rw [h.cancelled_last] at flag
  cases flag

end Accounts

end FinishedRun

end Pool
end Likeness
