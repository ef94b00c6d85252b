import Likeness.Proofs.Batch.Interleaving
import Likeness.Proofs.Batch.Ledger
import Mathlib.Data.List.Perm.Basic

/-!
# Where the pairs of a batch are

A pair that has been claimed is in the hands of exactly one worker, or its report stands in the
queue, or the ledger has taken its report; a pair that has not been claimed is nowhere.
`Pool.Accounts` says this of the reports, which are known as soon as a pair is claimed, and of the
comparisons, and ties the ledger to the reports it has taken.  Every step keeps the accounts, so
they hold after every interleaving.

**Main statements.**
* `Pool.Accounts.step`: what one step keeps.
* `Pool.Accounts.of_run`: what holds after an interleaving.
-/

namespace Likeness
namespace Pool

/-- The work of comparing all pairs of some trees. -/
def Work.ofTrees (workers every : Nat) (verdict : Pairing → Verdict) (trees : List Tree) : Work :=
  ⟨trees.length, (Pairing.all trees).toArray, workers, every, verdict⟩

theorem Work.pairs_ofTrees (workers every : Nat) (verdict : Pairing → Verdict)
    (trees : List Tree) :
    (ofTrees workers every verdict trees).pairs = (Pairing.all trees).toArray :=
  rfl

section Reports

variable {work : Work}

/-- The report that the pair with a number will have, if there is one. -/
def Work.report? (work : Work) (number : Nat) : Option Report :=
  work.pairs[number]?.map (fun pair => ⟨number, work.verdict pair⟩)

/-- The reports of the first pairs. -/
def Work.reports (work : Work) : Nat → List Report
  | 0 => []
  | n + 1 => work.reports n ++ (work.report? n).toList

theorem Work.report?_eq_some {number : Nat} {pair : Pairing}
    (there : work.pairs[number]? = some pair) :
    work.report? number = some ⟨number, work.verdict pair⟩ := by
  rw [report?, there, Option.map_some]

theorem Work.report?_eq_none {number : Nat} (beyond : work.pairs.size ≤ number) :
    work.report? number = none := by
  rw [report?, Array.getElem?_eq_none beyond, Option.map_none]

theorem Work.map_pair_reports (n : Nat) :
    (work.reports n).map Report.pair = List.range (min n work.pairs.size) := by
  induction n with
  | zero => simp [reports]
  | succ n ih =>
      rw [reports, List.map_append, ih]
      by_cases there : n < work.pairs.size
      · rw [report?_eq_some (Array.getElem?_eq_getElem there), Nat.min_eq_left (Nat.le_of_lt there),
          Nat.min_eq_left there, List.range_succ]
        rfl
      · rw [report?_eq_none (Nat.le_of_not_lt there), Nat.min_eq_right (by omega),
          Nat.min_eq_right (by omega)]
        exact List.append_nil _

/-- What is read off the reports of the first pairs can be read off the pairs. -/
theorem Work.filterMap_reports {α : Type} (work : Work) (f : Pairing → Verdict → Option α)
    (n : Nat) :
    (work.reports n).filterMap
        (fun report => work.pairs[report.pair]?.bind (fun pair => f pair report.verdict)) =
      (work.pairs.toList.take n).filterMap (fun pair => f pair (work.verdict pair)) := by
  induction n with
  | zero => simp [reports]
  | succ n ih =>
      rw [reports, List.filterMap_append, ih, List.take_add_one, List.filterMap_append]
      congr 1
      cases there : work.pairs[n]? with
      | none => simp [report?, there]
      | some pair => simp [report?, there, filterMap_cons_append]

end Reports

section Hands

theorem perm_set {α : Type} {l : List α} {k : Nat} {x : α} (there : l[k]? = some x) (y : α) :
    (x :: l.set k y).Perm (y :: l) := by
  obtain ⟨inside, rfl⟩ := List.getElem?_eq_some_iff.1 there
  refine ((List.set_perm_cons_eraseIdx inside y).cons _).trans ?_
  refine (List.Perm.swap _ _ _).trans ?_
  exact (List.getElem_cons_eraseIdx_perm inside).cons y

/-- The number of the pair that a worker is comparing. -/
def Phase.comparing? : Phase → Option Nat
  | .comparing number => some number
  | _ => none

/-- The report that a worker is going to send. -/
def Work.pending? (work : Work) : Phase → Option Report
  | .comparing number => work.report? number
  | .sending report => some report
  | _ => none

section Entering

variable {α : Type} {phases : List Phase} {worker : Nat} {phase : Phase}
  (there : phases[worker]? = some phase) (after : Phase) (f : Phase → Option α)
include there

/-- A worker that enters another phase exchanges what is seen of both. -/
theorem perm_filterMap_set :
    ((f phase).toList ++ (phases.set worker after).filterMap f).Perm
      ((f after).toList ++ phases.filterMap f) := by
  simpa only [filterMap_cons_append] using (perm_set there after).filterMap f

theorem perm_filterMap_set_of_eq (same : f after = f phase) :
    ((phases.set worker after).filterMap f).Perm (phases.filterMap f) := by
  have hands := perm_filterMap_set there after f
  rwa [same, List.perm_append_left_iff] at hands

theorem perm_filterMap_set_of_none {x : α} (before : f phase = none) (now : f after = some x) :
    ((phases.set worker after).filterMap f).Perm (phases.filterMap f ++ [x]) := by
  have hands := perm_filterMap_set there after f
  rw [before, now] at hands
  exact hands.trans List.perm_append_comm

theorem perm_filterMap_set_of_some {x : α} (before : f phase = some x) (now : f after = none) :
    (x :: (phases.set worker after).filterMap f).Perm (phases.filterMap f) := by
  have hands := perm_filterMap_set there after f
  rwa [before, now] at hands

end Entering

end Hands

/-- Where the pairs are, after some pairs have been compared and some reports taken. -/
structure Accounts (trees : List Tree) (work : Work) (state : State) (compared : List Nat)
    (taken : List Report) : Prop where
  pairs : work.pairs = (Pairing.all trees).toArray
  workers : state.phases.length = work.workers
  /-- The reports of the claimed pairs are taken, in the queue, or in the hands of workers. -/
  reports : (taken ++ (state.queue ++ state.phases.filterMap work.pending?)).Perm
    (work.reports state.next)
  /-- The claimed pairs have been compared or are being compared. -/
  numbers : (compared ++ state.phases.filterMap Phase.comparing?).Perm
    (List.range (min state.next work.pairs.size))
  /-- A worker that has left has seen the flag or the end. -/
  left : .left ∈ state.phases → state.cancelled = true ∨ work.pairs.size ≤ state.next
  records : state.ledger.Records trees taken

namespace Accounts

variable {trees : List Tree} {workers every : Nat} {verdict : Pairing → Verdict}

theorem of_start (cancelled : Bool) :
    Accounts trees (.ofTrees workers every verdict trees)
      (start (.ofTrees workers every verdict trees) cancelled) [] [] where
  pairs := rfl
  workers := by simp [start]
  reports := by simp [start, Work.reports, List.filterMap_replicate, Work.pending?]
  numbers := by simp [start, List.filterMap_replicate, Phase.comparing?]
  left := by simp [start, List.mem_replicate]
  records := by simpa [start, Work.ofTrees] using Ledger.Records.empty trees

end Accounts

section Keeping

variable {work : Work} {state next : State} {action : Action} {compared : List Nat}
  {taken : List Report}

/-- No step loses a report or adds one, but a claim adds that of the claimed pair. -/
theorem Step.reports (step : Step work state action next)
    (h : (taken ++ (state.queue ++ state.phases.filterMap work.pending?)).Perm
      (work.reports state.next)) :
    (taken ++ (state.taken? action).toList ++
      (next.queue ++ next.phases.filterMap work.pending?)).Perm (work.reports next.next) := by
  have kept : ∀ {worker : Nat} {phase : Phase}, state.phases[worker]? = some phase →
      ∀ after, work.pending? after = work.pending? phase →
      (taken ++ (state.queue ++ (state.phases.set worker after).filterMap work.pending?)).Perm
        (work.reports state.next) := fun phase _ same =>
    (((perm_filterMap_set_of_eq phase _ _ same).append_left _).append_left _).trans h
  cases step with
  | leave phase flag => simpa [State.taken?, State.enter] using kept phase .left rfl
  | pass phase flag => simpa [State.taken?, State.enter] using kept phase .cleared rfl
  | claim phase there =>
      have report := Work.report?_eq_some (Array.getElem?_eq_getElem there)
      have hands := perm_filterMap_set_of_none phase (.comparing state.next) work.pending? rfl
        report
      have all := (hands.append_left state.queue).append_left taken
      simp only [← List.append_assoc] at all h
      simpa [State.taken?, State.enter, Work.reports, report] using all.trans (h.append_right _)
  | overshoot phase beyond =>
      simpa [State.taken?, State.enter, Work.reports, Work.report?_eq_none beyond] using
        kept phase .left rfl
  | @compare worker number pair phase there =>
      -- the worker has had the report in its hands since it claimed the pair
      have same : work.pending? (.sending ⟨number, work.verdict pair⟩) =
          work.pending? (.comparing number) := (Work.report?_eq_some there).symm
      simpa [State.taken?, State.enter] using kept phase _ same
  | send phase =>
      have hands := perm_filterMap_set_of_some phase .ready work.pending? rfl rfl
      simpa [State.taken?, State.enter] using ((hands.append_left _).append_left _).trans h
  | receive front => simpa [State.taken?, front] using h
  | cancel => simpa [State.taken?] using h

/-- A claim adds the claimed number, and all other steps keep the numbers. -/
theorem Step.numbers (step : Step work state action next)
    (h : (compared ++ state.phases.filterMap Phase.comparing?).Perm
      (List.range (min state.next work.pairs.size))) :
    (compared ++ (state.compared? action).toList ++
      next.phases.filterMap Phase.comparing?).Perm
      (List.range (min next.next work.pairs.size)) := by
  have kept : ∀ {worker : Nat} {phase : Phase}, state.phases[worker]? = some phase →
      ∀ after : Phase, after.comparing? = phase.comparing? →
      (compared ++ (state.phases.set worker after).filterMap Phase.comparing?).Perm
        (List.range (min state.next work.pairs.size)) := fun phase _ same =>
    ((perm_filterMap_set_of_eq phase _ _ same).append_left _).trans h
  cases step with
  | leave phase flag => simpa [State.compared?, State.enter] using kept phase .left rfl
  | pass phase flag => simpa [State.compared?, State.enter] using kept phase .cleared rfl
  | claim phase there =>
      have hands := perm_filterMap_set_of_none phase (.comparing state.next) Phase.comparing? rfl
        rfl
      have behind := hands.append_left compared
      rw [← List.append_assoc] at behind
      rw [Nat.min_eq_left (Nat.le_of_lt there)] at h
      simp only [State.compared?, State.enter, Option.toList_none, List.append_nil,
        Nat.min_eq_left (Nat.succ_le_of_lt there), List.range_succ]
      exact behind.trans (h.append_right _)
  | overshoot phase beyond =>
      -- the counter may go on beyond the end, but no number is claimed there
      have kept := kept phase .left rfl
      rw [Nat.min_eq_right beyond] at kept
      simpa [State.compared?, State.enter, Nat.min_eq_right (Nat.le_succ_of_le beyond)] using kept
  | @compare worker number pair phase there =>
      have hands := perm_filterMap_set_of_some phase (.sending ⟨number, work.verdict pair⟩)
        Phase.comparing? rfl rfl
      simpa [State.compared?, State.comparing?, phase, State.enter] using
        (hands.append_left _).trans h
  | send phase => simpa [State.compared?, State.enter] using kept phase .ready rfl
  | receive front => simpa [State.compared?] using h
  | cancel => simpa [State.compared?] using h

/-- A worker leaves when it sees the flag or the end, and neither goes away. -/
theorem Step.left (step : Step work state action next)
    (h : .left ∈ state.phases → state.cancelled = true ∨ work.pairs.size ≤ state.next) :
    .left ∈ next.phases → next.cancelled = true ∨ work.pairs.size ≤ next.next := by
  -- a worker that enters another phase than the last one is not one that has left
  have before : ∀ {worker : Nat} {phase : Phase}, .left ∈ state.phases.set worker phase →
      phase ≠ .left → .left ∈ state.phases := by
    intro worker phase mem other
    exact (List.mem_or_eq_of_mem_set mem).resolve_right (Ne.symm other)
  intro mem
  cases step with
  | leave phase flag => exact Or.inl flag
  | pass phase flag => exact h (before mem nofun)
  | claim phase there => exact (h (before mem nofun)).imp_right Nat.le_succ_of_le
  | overshoot phase beyond => exact Or.inr (Nat.le_succ_of_le beyond)
  | compare phase there => exact h (before mem nofun)
  | send phase => exact h (before mem nofun)
  | receive front => exact h mem
  | cancel => exact Or.inl rfl

end Keeping

namespace Accounts

variable {trees : List Tree} {work : Work} {state next last : State} {action : Action}
  {actions : List Action} {compared : List Nat} {taken : List Report}

/-- The ledger takes a report of a pair that has not reported yet. -/
theorem receive (h : Accounts trees work state compared taken) {report : Report}
    {queue : List Report} (front : state.queue = report :: queue) :
    (state.ledger.receive work.pairs work.every report).Records trees (taken ++ [report]) := by
  have numbers := h.reports.map Report.pair
  rw [Work.map_pair_reports, front, List.cons_append, List.map_append, List.map_cons] at numbers
  have distinct := numbers.nodup_iff.2 List.nodup_range
  have known : report.pair < (Pairing.all trees).length := by
    have mem := numbers.mem_iff.1 (List.mem_append_right _ List.mem_cons_self)
    rw [List.mem_range, h.pairs, List.size_toArray] at mem
    omega
  have first : report.pair ∉ taken.map Report.pair := by
    intro mem
    exact (List.disjoint_of_nodup_append distinct) mem List.mem_cons_self
  rw [h.pairs]
  exact h.records.receive (List.getElem?_eq_getElem known) first work.every

theorem step (h : Accounts trees work state compared taken)
    (step : Step work state action next) :
    Accounts trees work next (compared ++ (state.compared? action).toList)
      (taken ++ (state.taken? action).toList) where
  pairs := h.pairs
  workers := by
    rw [← h.workers]
    cases step <;> simp [State.enter]
  reports := step.reports h.reports
  numbers := step.numbers h.numbers
  left := step.left h.left
  records := by
    cases step with
    | receive front => simpa [State.taken?, front] using h.receive front
    | _ => simpa [State.taken?, State.enter] using h.records

/-- The accounts hold after every interleaving, by induction on its steps. -/
theorem of_run (h : Accounts trees work state compared taken)
    (moved : run work state actions = some last) :
    Accounts trees work last (compared ++ observe State.compared? work state actions)
      (taken ++ observe State.taken? work state actions) := by
  induction actions generalizing state compared taken with
  | nil =>
      cases moved
      simpa [observe] using h
  | cons action actions ih =>
      obtain ⟨next, step, rest⟩ := run_cons_eq_some_iff.1 moved
      rw [observe_cons _ step, observe_cons _ step, ← List.append_assoc, ← List.append_assoc]
      exact ih (h.step step) rest

end Accounts

end Pool
end Likeness
