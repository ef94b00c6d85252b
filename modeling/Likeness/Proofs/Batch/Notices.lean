import Likeness.Proofs.Batch.Records

/-!
# What a batch tells while it runs

Reports are counted as the ledger takes them, whatever they say, and whoever waits is told of the
progress after every so many of them and after the last one.  So what is told depends on nothing but
the number of reports, and that is the number of pairs that were started.  When the workers have
left, the numbers of results and of failures are told.

**Main statements.**
* `Ledger.Tells.receive`: one more report.
* `Pool.ledger_of_run`: the ledger after an interleaving, from the reports it has taken.
* `FinishedRun.notices_follow_reports`: all notices of a batch.
-/

namespace Likeness

/-- Notices of the progress at the multiples of `every` up to a number of reports. -/
def milestones (every total reports : Nat) : List Notice :=
  (List.range (reports / every)).map (fun k => .progress ⟨(k + 1) * every, total⟩)

def noticesAfter (every total reports : Nat) : List Notice :=
  milestones every total reports ++
    if reports = total ∧ ¬ every ∣ total then [.progress ⟨total, total⟩] else []

section Counting

variable {every total reports : Nat}

theorem milestones_succ_of_dvd (h : every ∣ reports + 1) :
    milestones every total (reports + 1) =
      milestones every total reports ++ [.progress ⟨reports + 1, total⟩] := by
  have next : (reports + 1) / every = reports / every + 1 := by
    rw [Nat.succ_div, if_pos h]
  have reached : (reports / every + 1) * every = reports + 1 := by
    rw [← next, Nat.div_mul_cancel h]
  rw [milestones, next, List.range_succ, List.map_append, List.map_singleton, reached]
  rfl

theorem milestones_succ_of_not_dvd (h : ¬ every ∣ reports + 1) :
    milestones every total (reports + 1) = milestones every total reports := by
  rw [milestones, Nat.succ_div, if_neg h, Nat.add_zero]
  rfl

theorem noticesAfter_zero : noticesAfter every total 0 = [] := by
  have no : ¬ (0 = total ∧ ¬ every ∣ total) := by
    rintro ⟨rfl, rest⟩
    exact rest (Nat.dvd_zero every)
  rw [noticesAfter, milestones, Nat.zero_div, if_neg no]
  rfl

/-- Before the last report only multiples have been told. -/
theorem noticesAfter_of_lt (h : reports < total) :
    noticesAfter every total reports = milestones every total reports := by
  have no : ¬ (reports = total ∧ ¬ every ∣ total) := fun last => Nat.ne_of_lt h last.1
  rw [noticesAfter, if_neg no, List.append_nil]

/-- One more report is told if it is the last one or their number is a multiple, and told once if
it is both. -/
theorem noticesAfter_succ (h : reports < total) :
    noticesAfter every total (reports + 1) =
      noticesAfter every total reports ++
        if (reports + 1) % every = 0 ∨ reports + 1 = total then
          [.progress ⟨reports + 1, total⟩] else [] := by
  rw [noticesAfter_of_lt h]
  simp only [← Nat.dvd_iff_mod_eq_zero]
  by_cases multiple : every ∣ reports + 1
  · have no : ¬ (reports + 1 = total ∧ ¬ every ∣ total) := by
      rintro ⟨rfl, rest⟩
      exact rest multiple
    rw [noticesAfter, milestones_succ_of_dvd multiple, if_neg no, if_pos (Or.inl multiple),
      List.append_nil]
  · rw [noticesAfter, milestones_succ_of_not_dvd multiple]
    by_cases last : reports + 1 = total
    · subst last
      rw [if_pos ⟨rfl, multiple⟩, if_pos (Or.inr rfl)]
    · rw [if_neg (fun both => last both.1), if_neg (by simp [multiple, last])]

end Counting

namespace Ledger

/-- The ledger has counted some reports, and has told what there is to tell after so many. -/
structure Tells (ledger : Ledger) (every total reports : Nat) : Prop where
  completed : ledger.completed = reports
  notices : ledger.notices.toList = noticesAfter every total reports

namespace Tells

variable {ledger : Ledger} {pairs : Array Pairing} {every total counted : Nat}

theorem empty (every treeCount total : Nat) :
    (Ledger.empty treeCount total).Tells every total 0 where
  completed := rfl
  notices := noticesAfter_zero.symm

/-- What a report says is entered without counting it. -/
theorem enter (h : ledger.Tells every total counted) (pair : Pairing) (verdict : Verdict) :
    (ledger.enter pair verdict).Tells every total counted := by
  cases verdict with
  | ok score => exact ⟨h.completed, h.notices⟩
  | error message => exact ⟨h.completed, h.notices⟩

theorem tick (h : ledger.Tells every total counted) (more : counted < total) :
    (ledger.tick every total).Tells every total (counted + 1) where
  completed := by rw [Ledger.tick, h.completed]
  notices := by
    rw [noticesAfter_succ more, ← h.notices, Ledger.tick, h.completed]
    dsimp only
    split
    · rw [Array.toList_push]
    · rw [List.append_nil]

/-- A report counts, whether it is a score or not. -/
theorem receive (h : ledger.Tells every pairs.size counted) (more : counted < pairs.size)
    {report : Report} (there : report.pair < pairs.size) :
    (ledger.receive pairs every report).Tells every pairs.size (counted + 1) := by
  have entered := h.enter pairs[report.pair] report.verdict
  rw [Ledger.receive, Array.getElem?_eq_getElem there]
  exact tick ⟨entered.completed, entered.notices⟩ more

/-- By induction on the reports that are taken. -/
theorem foldl {reports : List Report} (h : ledger.Tells every pairs.size counted)
    (there : ∀ report ∈ reports, report.pair < pairs.size)
    (room : counted + reports.length ≤ pairs.size) :
    (reports.foldl (fun ledger report => ledger.receive pairs every report) ledger).Tells every
      pairs.size (counted + reports.length) := by
  induction reports generalizing ledger counted with
  | nil => exact h
  | cons report reports ih =>
      rw [List.length_cons] at room
      have first := h.receive (by omega) (there report List.mem_cons_self)
      have rest := ih first (fun other mem => there other (List.mem_cons_of_mem _ mem)) (by omega)
      rw [List.length_cons, List.foldl_cons, Nat.add_comm reports.length, ← Nat.add_assoc]
      exact rest

end Tells

end Ledger

namespace Pool

section Taking

variable {work : Work} {state next last : State} {action : Action} {actions : List Action}

theorem Step.ledger (step : Step work state action next) :
    next.ledger = (state.taken? action).toList.foldl
      (fun ledger report => ledger.receive work.pairs work.every report) state.ledger := by
  cases step with
  | receive front => simp [State.taken?, front]
  | _ => rfl

/-- The ledger has taken the reports one after the other, and no step but that changes it. -/
theorem ledger_of_run (moved : run work state actions = some last) :
    last.ledger = (observe State.taken? work state actions).foldl
      (fun ledger report => ledger.receive work.pairs work.every report) state.ledger := by
  induction actions generalizing state with
  | nil =>
      cases moved
      rfl
  | cons action actions ih =>
      obtain ⟨next, step, rest⟩ := run_cons_eq_some_iff.1 moved
      rw [observe_cons _ step, List.foldl_append, ← step.ledger]
      exact ih rest

end Taking

namespace FinishedRun

section Telling

variable {trees : List Tree} {workers every : Nat} {verdict : Pairing → Verdict}
  (r : FinishedRun (.ofTrees workers every verdict trees))

theorem length_compared : r.compared.length = r.started := by
  rw [r.perm_compared.length_eq, List.length_range]

/-- Every pair that was started has reported. -/
theorem length_taken : r.taken.length = r.started := by
  have numbers := (r.perm_taken.map Report.pair).length_eq
  rwa [List.length_map, Work.map_pair_reports, List.length_range] at numbers

theorem notices_eq :
    r.outcome.notices =
      noticesAfter every (Pairing.all trees).length r.started ++
        [.finished r.outcome.results.length r.outcome.failures.length] := by
  have there : ∀ report ∈ r.taken, report.pair < (Pairing.all trees).toArray.size := by
    intro report mem
    exact Nat.lt_of_lt_of_le (r.mem_taken_iff.1 (List.mem_map_of_mem mem)) r.started_le
  have room : 0 + r.taken.length ≤ (Pairing.all trees).toArray.size := by
    rw [Nat.zero_add, r.length_taken]
    exact r.started_le
  have tells := (Ledger.Tells.empty every trees.length _).foldl there room
  have ledger : r.last.ledger = _ := ledger_of_run r.run_eq
  have told : r.last.ledger.notices.toList = _ := ledger ▸ tells.notices
  rw [Nat.zero_add, r.length_taken, List.size_toArray] at told
  rw [← told]
  rfl

end Telling

/-- Each pair that was started reports, and only a cancellation keeps their number below that of all
pairs.  Progress is told of when the number of reports is a multiple of `every`, and after the report
of the last pair even if it is not.  Then, once and last, the numbers of results and of failures are
told, which make up the number of pairs.  It does not matter how the workers interleave or which
comparisons break off. -/
theorem notices_follow_reports (settings : PoolSettings) (verdict : Pairing → Verdict)
    (trees : List Tree) (r : FinishedRun (pairwiseWork settings verdict trees)) :
    let every := max settings.progressEvery 1
    let total := r.outcome.pairCount
    let started := r.compared.length
    r.taken.length = started ∧ started ≤ total ∧
    (started < total → r.cancelled = true ∨ .cancel ∈ r.actions) ∧
    r.outcome.notices =
      (List.range (started / every)).map (fun k => .progress ⟨(k + 1) * every, total⟩) ++
      (if started = total ∧ ¬ every ∣ total then [.progress ⟨total, total⟩] else []) ++
      [.finished r.outcome.results.length r.outcome.failures.length] ∧
    r.outcome.results.length + r.outcome.failures.length = total := by
  intro every total started
  have hworkers : 1 ≤ workerCount settings.available settings.requested?
      (Pairing.all trees).toArray.size := Nat.le_max_right _ _
  let r' : FinishedRun (.ofTrees (workerCount settings.available settings.requested?
    (Pairing.all trees).toArray.size) every verdict trees) := r
  have pairs : (Pairing.all trees).length = total := rfl
  have started_eq : r'.started = started := r'.length_compared.symm
  refine ⟨r'.length_taken.trans started_eq, ?_, ?_, ?_, ?_⟩
  · rw [← started_eq]
    exact r'.started_le
  · intro less
    have flag := r'.cancelled_of_started_lt hworkers (started_eq ▸ less)
    exact (cancelled_of_run r.run_eq).1 flag
  · have told := r'.notices_eq
    rw [started_eq, pairs] at told
    exact told
  · have all := r'.length_results_add_failures hworkers
    rw [← Pairing.length_all] at all
    exact all

end FinishedRun
end Pool
end Likeness
