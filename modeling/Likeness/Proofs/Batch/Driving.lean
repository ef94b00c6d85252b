import Likeness.Proofs.Batch.FinishedRun

/-!
# Every run can be finished

As long as a run is not finished, some worker or the ledger can go on, and since every such step
uses up potential, the run is finished after a bounded number of them.  The driven interleaving
takes exactly such steps, so it is one of the interleavings that the other results are about, and
it never stops before the end.

**Main statements.**
* `Pool.Accounts.exists_step`: no run gets stuck.
* `Pool.exists_finishedRun_comparePairs`: the driven interleaving is a finished run.
-/

namespace Likeness
namespace Pool

section Choosing

theorem firstAction?_eq_none {worker : Nat} {phases : List Phase}
    (h : firstAction? worker phases = none) : ∀ phase ∈ phases, phase.isLeft = true := by
  induction phases generalizing worker with
  | nil => exact nofun
  | cons phase phases ih =>
      intro other mem
      cases phase with
      | left =>
          rcases List.mem_cons.1 mem with rfl | mem
          · rfl
          · exact ih h other mem
      | _ => cases h

theorem firstAction?_eq_some {worker : Nat} {phases : List Phase} {action : Action}
    (h : firstAction? worker phases = some action) :
    ∃ (k : Nat) (phase : Phase), phases[k]? = some phase ∧
      phase.action? (worker + k) = some action := by
  induction phases generalizing worker with
  | nil => cases h
  | cons phase phases ih =>
      rw [firstAction?] at h
      cases chosen : phase.action? worker with
      | some first =>
          rw [chosen] at h
          cases h
          exact ⟨0, phase, rfl, chosen⟩
      | none =>
          rw [chosen] at h
          obtain ⟨k, other, there, chosen⟩ := ih h
          exact ⟨k + 1, other, there, by rwa [Nat.add_assoc, Nat.add_comm 1] at chosen⟩

end Choosing

section Progress

variable {trees : List Tree} {work : Work} {state : State} {compared : List Nat}
  {taken : List Report}

/-- A pair that is being compared is one of the pairs. -/
theorem Accounts.comparing_lt (h : Accounts trees work state compared taken) {worker number : Nat}
    (phase : state.phases[worker]? = some (.comparing number)) : number < work.pairs.size := by
  have mem : number ∈ state.phases.filterMap Phase.comparing? :=
    List.mem_filterMap.2 ⟨_, List.mem_of_getElem? phase, rfl⟩
  have claimed := h.numbers.mem_iff.1 (List.mem_append_right compared mem)
  rw [List.mem_range] at claimed
  omega

/-- The step that comes next is possible. -/
theorem Accounts.step_of_nextAction? (h : Accounts trees work state compared taken)
    {action : Action} (chosen : state.nextAction? = some action) :
    action ≠ .cancel ∧ ∃ next, Step work state action next := by
  rw [State.nextAction?] at chosen
  split at chosen
  · obtain ⟨worker, phase, there, chosen⟩ := firstAction?_eq_some chosen
    rw [Nat.zero_add] at chosen
    cases phase with
    | ready =>
        cases chosen
        refine ⟨nofun, ?_⟩
        cases flag : state.cancelled with
        | true => exact ⟨_, .leave there flag⟩
        | false => exact ⟨_, .pass there flag⟩
    | cleared =>
        cases chosen
        refine ⟨nofun, ?_⟩
        by_cases more : state.next < work.pairs.size
        · exact ⟨_, .claim there more⟩
        · exact ⟨_, .overshoot there (Nat.le_of_not_lt more)⟩
    | comparing number =>
        cases chosen
        exact ⟨nofun, _, .compare there (Array.getElem?_eq_getElem (h.comparing_lt there))⟩
    | sending report =>
        cases chosen
        exact ⟨nofun, _, .send there⟩
    | left => cases chosen
  · rename_i waiting
    cases chosen
    cases front : state.queue with
    | nil => simp [front] at waiting
    | cons report queue => exact ⟨nofun, _, .receive front⟩

/-- If no step comes next, the run is finished. -/
theorem isDone_of_nextAction? (h : state.nextAction? = none) : state.isDone = true := by
  rw [State.nextAction?] at h
  split at h
  · rename_i empty
    rw [State.isDone, empty, Bool.and_true, List.all_eq_true]
    exact firstAction?_eq_none h
  · cases h

/-- No run gets stuck: a worker or the ledger can go on until the run is finished. -/
theorem Accounts.exists_step (h : Accounts trees work state compared taken)
    (busy : state.isDone = false) :
    ∃ action next, action ≠ .cancel ∧ Step work state action next := by
  cases chosen : state.nextAction? with
  | none =>
      rw [isDone_of_nextAction? chosen] at busy
      cases busy
  | some action =>
      obtain ⟨other, next, step⟩ := h.step_of_nextAction? chosen
      exact ⟨action, next, other, step⟩

end Progress

section Driving

variable {trees : List Tree} {work : Work} {state : State} {compared : List Nat}
  {taken : List Report}

/-- The driven interleaving goes on by one step, or by two if the batch is cancelled before a
comparison, unless the run is finished. -/
theorem Accounts.advance_spec (h : Accounts trees work state compared taken)
    (raises : Pairing → Bool) :
    (advance work raises state = none ∧ state.isDone = true) ∨
      ∃ actions next, advance work raises state = some next ∧
        run work state actions = some next ∧ next.potential work < state.potential work := by
  cases chosen : state.nextAction? with
  | none => exact Or.inl ⟨by simp [advance, chosen], isDone_of_nextAction? chosen⟩
  | some action =>
      right
      obtain ⟨raised, same⟩ : ∃ raised : Bool, advance work raises state =
          if raised then (act work state .cancel).bind (fun state => act work state action)
          else act work state action := by
        rw [advance, chosen]
        exact ⟨_, rfl⟩
      rw [same]
      cases raised with
      | true =>
          -- cancelling changes neither the step that comes next nor the potential
          have flagged := h.step .cancel
          obtain ⟨other, next, step⟩ := flagged.step_of_nextAction? chosen
          refine ⟨[.cancel, action], next, act_of_step step, ?_, step.potential_lt other⟩
          exact run_cons_eq_some_iff.2 ⟨_, .cancel, run_cons_eq_some_iff.2 ⟨next, step, rfl⟩⟩
      | false =>
          obtain ⟨other, next, step⟩ := h.step_of_nextAction? chosen
          exact ⟨[action], next, act_of_step step, run_cons_eq_some_iff.2 ⟨next, step, rfl⟩,
            step.potential_lt other⟩

theorem run_append {first second : List Action} {middle : State}
    (h : run work state first = some middle) :
    run work state (first ++ second) = run work middle second := by
  induction first generalizing state with
  | nil =>
      cases h
      rfl
  | cons action actions ih =>
      obtain ⟨next, step, rest⟩ := run_cons_eq_some_iff.1 h
      rw [List.cons_append, run, act_of_step step, Option.bind_some, ih rest]

/-- With as many steps as there is potential the driven interleaving comes to its end. -/
theorem Accounts.drive_spec (h : Accounts trees work state compared taken)
    (raises : Pairing → Bool) {fuel : Nat} (enough : state.potential work ≤ fuel) :
    ∃ actions, run work state actions = some (drive work raises fuel state) ∧
      (drive work raises fuel state).isDone = true := by
  induction fuel generalizing state compared taken with
  | zero =>
      refine ⟨[], rfl, ?_⟩
      rcases h.advance_spec raises with ⟨_, done⟩ | ⟨_, _, _, _, less⟩
      · exact done
      · omega
  | succ fuel ih =>
      rw [drive]
      rcases h.advance_spec raises with ⟨stopped, done⟩ | ⟨first, next, advanced, moved, less⟩
      · rw [stopped]
        exact ⟨[], rfl, done⟩
      · rw [advanced]
        obtain ⟨second, rest, done⟩ := ih (h.of_run moved) (by omega)
        exact ⟨first ++ second, by rw [run_append moved, rest], done⟩

/-- What the driven interleaving comes to is what a finished run comes to. -/
theorem exists_finishedRun_comparePairs (settings : PoolSettings) (raises : Pairing → Bool)
    (verdict : Pairing → Verdict) (trees : List Tree) :
    ∃ r : FinishedRun (pairwiseWork settings verdict trees),
      r.cancelled = settings.cancelled ∧
        r.outcome = comparePairs settings raises verdict trees := by
  have accounts : Accounts trees (pairwiseWork settings verdict trees)
      (start (pairwiseWork settings verdict trees) settings.cancelled) [] [] :=
    Accounts.of_start settings.cancelled
  obtain ⟨actions, moved, done⟩ := accounts.drive_spec raises
    (Nat.le_of_eq (potential_start (pairwiseWork settings verdict trees) settings.cancelled))
  exact ⟨⟨settings.cancelled, actions, _, moved, done⟩, rfl, rfl⟩

end Driving

end Pool
end Likeness
