import Likeness.Batch.Pool

/-!
# Interleavings

`Pool.Step` lists the ways in which a pool goes on, and later proofs take steps apart by it.
What an interleaving does on its way is read off step by step: `Pool.observe` collects what a
view shows of each step.

Each step but that of the cancelling side uses up some of the potential of a state, which starts
at the number of steps that the driven interleaving allows itself.  So no interleaving goes on
for ever.

**Main statements.**
* `Pool.act_eq_some_iff`: the steps that are possible are those of `Pool.Step`.
* `Pool.cancelled_of_run`: the flag is set in the end if it was at the start or has been set.
* `Pool.length_le_of_run`: how many steps an interleaving has at most.
-/

namespace Likeness
namespace Pool

section Steps

/-- The ways to go on. -/
inductive Step (work : Work) (state : State) : Action → State → Prop
  | leave {worker : Nat} (phase : state.phases[worker]? = some .ready)
      (flag : state.cancelled = true) :
      Step work state (.look worker) (state.enter worker .left)
  | pass {worker : Nat} (phase : state.phases[worker]? = some .ready)
      (flag : state.cancelled = false) :
      Step work state (.look worker) (state.enter worker .cleared)
  | claim {worker : Nat} (phase : state.phases[worker]? = some .cleared)
      (there : state.next < work.pairs.size) :
      Step work state (.claim worker)
        { state.enter worker (.comparing state.next) with next := state.next + 1 }
  | overshoot {worker : Nat} (phase : state.phases[worker]? = some .cleared)
      (beyond : work.pairs.size ≤ state.next) :
      Step work state (.claim worker)
        { state.enter worker .left with next := state.next + 1 }
  | compare {worker number : Nat} {pair : Pairing}
      (phase : state.phases[worker]? = some (.comparing number))
      (there : work.pairs[number]? = some pair) :
      Step work state (.compare worker)
        (state.enter worker (.sending ⟨number, work.verdict pair⟩))
  | send {worker : Nat} {report : Report}
      (phase : state.phases[worker]? = some (.sending report)) :
      Step work state (.send worker)
        { state.enter worker .ready with queue := state.queue ++ [report] }
  | receive {report : Report} {queue : List Report} (front : state.queue = report :: queue) :
      Step work state .receive
        { state with queue, ledger := state.ledger.receive work.pairs work.every report }
  | cancel : Step work state .cancel { state with cancelled := true }

variable {work : Work} {state next : State} {action : Action}

theorem act_of_step (step : Step work state action next) : act work state action = some next := by
  cases step with
  | leave phase flag => simp [act, phase, flag]
  | pass phase flag => simp [act, phase, flag]
  | claim phase there => simp [act, phase, there]
  | overshoot phase beyond => simp [act, phase, Nat.not_lt.2 beyond]
  | compare phase there => simp [act, phase, there]
  | send phase => simp [act, phase]
  | receive front => simp [act, front]
  | cancel => rfl

theorem step_of_act (h : act work state action = some next) : Step work state action next := by
  cases action with
  | look worker =>
      simp only [act] at h
      split at h
      · rename_i phase
        cases h
        cases flag : state.cancelled with
        | true => exact .leave phase flag
        | false => exact .pass phase flag
      · cases h
  | claim worker =>
      simp only [act] at h
      split at h
      · rename_i phase
        cases h
        by_cases there : state.next < work.pairs.size
        · simpa [there] using Step.claim phase there
        · simpa [there] using Step.overshoot phase (Nat.le_of_not_lt there)
      · cases h
  | compare worker =>
      simp only [act] at h
      split at h
      · rename_i number phase
        split at h
        · rename_i pair there
          cases h
          exact .compare phase there
        · cases h
      · cases h
  | send worker =>
      simp only [act] at h
      split at h
      · rename_i report phase
        cases h
        exact .send phase
      · cases h
  | receive =>
      simp only [act] at h
      split at h
      · rename_i report queue front
        cases h
        exact .receive front
      · cases h
  | cancel =>
      cases h
      exact .cancel

/-- The steps that are possible are the listed ones. -/
theorem act_eq_some_iff : act work state action = some next ↔ Step work state action next :=
  ⟨step_of_act, act_of_step⟩

theorem run_cons_eq_some_iff {actions : List Action} {last : State} :
    run work state (action :: actions) = some last ↔
      ∃ next, Step work state action next ∧ run work next actions = some last := by
  rw [run, Option.bind_eq_some_iff]
  simp only [act_eq_some_iff]

end Steps

section Observing

variable {α : Type} (view : State → Action → Option α) {work : Work} {state next : State}

/-- What a view shows of the steps of an interleaving, one after the other. -/
def observe (work : Work) (state : State) : List Action → List α
  | [] => []
  | action :: actions =>
      (view state action).toList ++
        (act work state action).elim [] (fun next => observe work next actions)

theorem observe_cons {action : Action} (step : Step work state action next)
    (actions : List Action) :
    observe view work state (action :: actions) =
      (view state action).toList ++ observe view work next actions := by
  rw [observe, act_of_step step, Option.elim_some]

/-- The number of the pair that a step compares. -/
def State.compared? (state : State) : Action → Option Nat
  | .compare worker => state.comparing? worker
  | _ => none

/-- The report that a step takes. -/
def State.taken? (state : State) : Action → Option Report
  | .receive => state.queue.head?
  | _ => none

end Observing

section Flag

variable {work : Work} {state next last : State} {action : Action} {actions : List Action}

theorem Step.cancelled (step : Step work state action next) :
    next.cancelled = true ↔ state.cancelled = true ∨ action = .cancel := by
  cases step <;> simp [State.enter]

/-- In the end the flag is set if it was at the start or has been set on the way. -/
theorem cancelled_of_run (h : run work state actions = some last) :
    last.cancelled = true ↔ state.cancelled = true ∨ .cancel ∈ actions := by
  induction actions generalizing state with
  | nil =>
      cases h
      simp
  | cons action actions ih =>
      obtain ⟨next, step, rest⟩ := run_cons_eq_some_iff.1 h
      rw [ih rest, step.cancelled, List.mem_cons, or_assoc, @eq_comm _ action]

end Flag

section Phases

variable {work : Work} {state next last : State} {action : Action} {actions : List Action}

/-- How many steps a worker and then the ledger can take before the worker is about to claim
the next pair or has left. -/
def Phase.potential : Phase → Nat
  | .ready => 2
  | .cleared => 1
  | .comparing _ => 5
  | .sending _ => 4
  | .left => 0

def Phase.potentials : List Phase → Nat
  | [] => 0
  | phase :: phases => phase.potential + potentials phases

/-- How many steps are left at most, those of the cancelling side apart. -/
def State.potential (work : Work) (state : State) : Nat :=
  5 * (work.pairs.size - state.next) + Phase.potentials state.phases + state.queue.length

theorem potentials_replicate (workers : Nat) :
    Phase.potentials (List.replicate workers .ready) = 2 * workers := by
  induction workers with
  | zero => rfl
  | succ workers ih =>
      rw [List.replicate_succ, Phase.potentials, ih, Phase.potential]
      omega

theorem potential_start (work : Work) (cancelled : Bool) :
    (start work cancelled).potential work = work.steps := by
  simp [start, State.potential, Work.steps, potentials_replicate]

/-- A worker that enters another phase exchanges the potentials of both. -/
theorem potentials_set {phases : List Phase} {worker : Nat} {phase : Phase}
    (there : phases[worker]? = some phase) (after : Phase) :
    phase.potential + Phase.potentials (phases.set worker after) =
      after.potential + Phase.potentials phases := by
  induction phases generalizing worker with
  | nil => cases there
  | cons first phases ih =>
      cases worker with
      | zero =>
          cases there
          rw [List.set_cons_zero, Phase.potentials, Phase.potentials]
          omega
      | succ worker =>
          have rest := ih there
          rw [List.set_cons_succ, Phase.potentials, Phase.potentials]
          omega

/-- Every step but that of the cancelling side uses up some potential. -/
theorem Step.potential_lt (step : Step work state action next) (h : action ≠ .cancel) :
    next.potential work < state.potential work := by
  cases step with
  | leave phase flag =>
      have sums := potentials_set phase .left
      simp only [State.potential, State.enter, Phase.potential] at sums ⊢
      omega
  | pass phase flag =>
      have sums := potentials_set phase .cleared
      simp only [State.potential, State.enter, Phase.potential] at sums ⊢
      omega
  | claim phase there =>
      -- the claimed pair is no longer one of those to come, which pays for its steps
      have sums := potentials_set phase (.comparing state.next)
      simp only [State.potential, State.enter, Phase.potential] at sums ⊢
      omega
  | overshoot phase beyond =>
      have sums := potentials_set phase .left
      simp only [State.potential, State.enter, Phase.potential] at sums ⊢
      omega
  | @compare worker number pair phase there =>
      have sums := potentials_set phase (.sending ⟨number, work.verdict pair⟩)
      simp only [State.potential, State.enter, Phase.potential] at sums ⊢
      omega
  | send phase =>
      have sums := potentials_set phase .ready
      simp only [State.potential, State.enter, Phase.potential, List.length_append,
        List.length_singleton] at sums ⊢
      omega
  | receive front =>
      simp only [State.potential, front, List.length_cons]
      omega
  | cancel => exact absurd rfl h

theorem Step.potential_le (step : Step work state action next) :
    next.potential work ≤ state.potential work := by
  by_cases h : action = .cancel
  · subst h
    cases step
    exact Nat.le_refl _
  · exact Nat.le_of_lt (step.potential_lt h)

/-- Every interleaving is bounded: the cancelling side apart, workers and ledger take no more
steps than the potential they start with. -/
theorem length_le_of_run (h : run work state actions = some last) :
    (actions.filter (· ≠ .cancel)).length + last.potential work ≤ state.potential work := by
  induction actions generalizing state with
  | nil =>
      cases h
      simp
  | cons action actions ih =>
      obtain ⟨next, step, rest⟩ := run_cons_eq_some_iff.1 h
      have tail := ih rest
      by_cases same : action = .cancel
      · have head := step.potential_le
        rw [List.filter_cons_of_neg (by simpa using same)]
        omega
      · have head := step.potential_lt same
        rw [List.filter_cons_of_pos (by simpa using same), List.length_cons]
        omega

end Phases

end Pool
end Likeness
