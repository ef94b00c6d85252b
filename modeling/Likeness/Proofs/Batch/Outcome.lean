import Likeness.Proofs.Batch.FinishedRun

/-!
# What a batch comes to

Workers, ledger and cancelling side may interleave as they like, comparisons may break off, and
the batch may be cancelled at any moment: in the end each pair has either a result or a failure,
the pairs that were started are the first ones, and both matrices agree with the results and the
failures.

**Main statements.**
* `FinishedRun.each_pair_accounted_for`: one result or failure for each pair, and which.
* `FinishedRun.started_pairs_come_first`: started pairs, then cancelled ones.
* `FinishedRun.matrices_agree`: the cells of both matrices.
-/

namespace Likeness

/-- The places that have a result or a failure, as often as they have one. -/
def Outcome.places (outcome : Outcome) : List (Nat × Nat) :=
  outcome.results.map PairResult.place ++ outcome.failures.map Failure.place

namespace Pool
namespace FinishedRun

variable {trees : List Tree} {workers every : Nat} {verdict : Pairing → Verdict}
  (r : FinishedRun (.ofTrees workers every verdict trees))

section Contents

theorem mem_results_iff {result : PairResult} :
    result ∈ r.outcome.results ↔
      ∃ pair ∈ r.comparedPairs, ∃ score, verdict pair = .ok score ∧
        result = ⟨pair.i, pair.j, score.distance, score.similarity⟩ := by
  simp only [r.perm_results.mem_iff, List.mem_filterMap, Pairing.result?_eq_some_iff,
    r.perm_comparedPairs.mem_iff]

theorem mem_broken_iff {failure : Failure} :
    failure ∈ r.broken ↔
      ∃ pair ∈ r.comparedPairs, ∃ message, verdict pair = .error message ∧
        failure = ⟨pair.i, pair.j, .panicked, message⟩ := by
  simp only [r.perm_broken.mem_iff, List.mem_filterMap, Pairing.breakage?_eq_some_iff,
    r.perm_comparedPairs.mem_iff]

theorem kind_of_mem_broken {failure : Failure} (mem : failure ∈ r.broken) :
    failure.kind = .panicked := by
  obtain ⟨pair, _, message, _, rfl⟩ := r.mem_broken_iff.1 mem
  rfl

variable (hworkers : 1 ≤ workers)
include hworkers

theorem mem_failures_iff {failure : Failure} :
    failure ∈ r.outcome.failures ↔
      failure ∈ r.broken ∨
        ∃ pair ∈ (Pairing.all trees).drop r.started, Failure.ofCancelled pair = failure := by
  rw [r.failures_eq hworkers, List.mem_append, List.mem_map]

/-- Results and failures together have the places of all pairs. -/
theorem perm_outcome_places :
    r.outcome.places.Perm ((Pairing.all trees).map Pairing.place) := by
  have first := ((r.perm_results.map PairResult.place).append
    (r.perm_broken.map Failure.place)).trans (Pairing.perm_places verdict _)
  rw [Outcome.places, r.failures_eq hworkers, List.map_append, ← List.append_assoc]
  conv_rhs => rw [← List.take_append_drop r.started (Pairing.all trees), List.map_append]
  refine first.append (.of_eq ?_)
  rw [List.map_map]
  rfl

/-- A failure is of a pair that has no result. -/
theorem no_result_of_mem_failures {failure : Failure} (mem : failure ∈ r.outcome.failures) :
    failure.i < failure.j ∧ failure.j < trees.length ∧
      (failure.i, failure.j) ∉ r.outcome.results.map PairResult.place := by
  have places := r.perm_outcome_places hworkers
  have mem' : failure.place ∈ r.outcome.failures.map Failure.place := List.mem_map_of_mem mem
  obtain ⟨pair, there, same⟩ := List.mem_map.1 (places.mem_iff.1 (List.mem_append_right _ mem'))
  obtain ⟨hi, hj⟩ := Prod.mk.inj same
  have distinct := places.nodup_iff.2 (Pairing.nodup_places trees)
  refine ⟨?_, ?_, ?_⟩
  · rw [← hi, ← hj]
    exact (Pairing.mem_all_iff.1 there).1
  · rw [← hj]
    exact Pairing.lt_length_of_mem_all there
  · intro double
    exact (List.disjoint_of_nodup_append distinct) double mem'

end Contents

section Accounting

/-- Every pair of places `i < j` has exactly one result or failure, and no other pair has one.
The results are the scores of the pairs that were compared, and the failures of broken off
comparisons are those of the compared pairs whose comparison broke off. -/
theorem each_pair_accounted_for (hworkers : 1 ≤ workers) :
    (∀ i j, r.outcome.places.count (i, j) = if i < j ∧ j < trees.length then 1 else 0) ∧
    (∀ result, result ∈ r.outcome.results ↔
      ∃ pair ∈ r.comparedPairs, ∃ score, verdict pair = .ok score ∧
        result = ⟨pair.i, pair.j, score.distance, score.similarity⟩) ∧
    (∀ failure, failure ∈ r.outcome.failures ∧ failure.kind = .panicked ↔
      ∃ pair ∈ r.comparedPairs, ∃ message, verdict pair = .error message ∧
        failure = ⟨pair.i, pair.j, .panicked, message⟩) ∧
    ∀ pair ∈ r.comparedPairs,
      trees[pair.i]? = some pair.left ∧ trees[pair.j]? = some pair.right := by
  refine ⟨?_, fun result => r.mem_results_iff, ?_, ?_⟩
  · intro i j
    rw [(r.perm_outcome_places hworkers).count_eq, Pairing.count_place]
  · intro failure
    rw [← r.mem_broken_iff, r.mem_failures_iff hworkers]
    constructor
    · rintro ⟨mem | ⟨pair, _, rfl⟩, kind⟩
      · exact mem
      · cases kind
    · intro mem
      exact ⟨Or.inl mem, r.kind_of_mem_broken mem⟩
  · intro pair mem
    exact (Pairing.mem_all_iff.1 (List.mem_of_mem_take (r.perm_comparedPairs.mem_iff.1 mem))).2

/-- Three trees. -/
def sampleTrees : List Tree :=
  [.leaf "identifier" "x", .leaf "identifier" "y", .leaf "identifier" "z"]

/-- The comparison of the outer two of three trees breaks off. -/
def sampleVerdict (pair : Pairing) : Verdict :=
  if pair.i = 0 ∧ pair.j = 2 then .error "malformed tree" else .ok ⟨1, 2, .zero⟩

/-- Two workers compare the first two pairs, the second pair breaks off and reports first, and
the batch is cancelled before the third pair is claimed. -/
def interrupted : FinishedRun (.ofTrees 2 1 sampleVerdict sampleTrees) :=
  ofActions _ false
    [.look 0, .look 1, .claim 0, .claim 1, .compare 1, .send 1, .cancel, .look 1, .compare 0,
      .receive, .send 0, .look 0, .receive] rfl

theorem each_pair_accounted_for_interrupted :
    1 ≤ 2 ∧
    (∀ i j, interrupted.outcome.places.count (i, j) = if i < j ∧ j < 3 then 1 else 0) ∧
    ⟨0, 1, 1, .zero⟩ ∈ interrupted.outcome.results ∧
    ⟨0, 2, .panicked, "malformed tree"⟩ ∈ interrupted.outcome.failures := by
  obtain ⟨once, results, failures, _⟩ := interrupted.each_pair_accounted_for (by decide)
  refine ⟨by decide, once, ?_, ?_⟩
  · rw [results]
    exact ⟨⟨0, 1, .leaf "identifier" "x", .leaf "identifier" "y"⟩, .tail _ (.head _), ⟨1, 2, .zero⟩,
      rfl, rfl⟩
  · refine ((failures _).2 ?_).1
    exact ⟨⟨0, 2, .leaf "identifier" "x", .leaf "identifier" "z"⟩, .head _, "malformed tree",
      rfl, rfl⟩

end Accounting

section Starting

/-- The pairs that were started are the first `c` ones in row-major order.  Each of them was
compared exactly once and has a result or a failure of its comparison.  All others are cancelled
and stand in their order behind the failures of comparisons; no pair is lost with its worker, and
without a cancellation all pairs were started. -/
theorem started_pairs_come_first (hworkers : 1 ≤ workers) :
    ∃ c, c ≤ r.outcome.pairCount ∧
      (∀ k, r.compared.count k = if k < c then 1 else 0) ∧
      (∀ pair ∈ (Pairing.all trees).take c,
        (∃ result ∈ r.outcome.results, result.place = pair.place) ∨
          ∃ failure ∈ r.outcome.failures,
            failure.place = pair.place ∧ failure.kind = .panicked) ∧
      (∃ broken, (∀ failure ∈ broken, failure.kind = .panicked) ∧
        r.outcome.failures = broken ++ ((Pairing.all trees).drop c).map Failure.ofCancelled) ∧
      (∀ failure ∈ r.outcome.failures, failure.kind ≠ .workerLost) ∧
      (r.cancelled = false → .cancel ∉ r.actions → c = r.outcome.pairCount) := by
  refine ⟨r.started, r.started_le, ?_, ?_, ?_, ?_, ?_⟩
  · intro k
    rw [r.perm_compared.count_eq, List.nodup_range.count]
    simp only [List.mem_range]
  · intro pair mem
    have compared := r.perm_comparedPairs.mem_iff.2 mem
    cases came : verdict pair with
    | ok score =>
        exact Or.inl ⟨_, r.mem_results_iff.2 ⟨pair, compared, score, came, rfl⟩, rfl⟩
    | error message =>
        have broken := r.mem_broken_iff.2 ⟨pair, compared, message, came, rfl⟩
        exact Or.inr ⟨_, (r.mem_failures_iff hworkers).2 (Or.inl broken), rfl, rfl⟩
  · exact ⟨r.broken, fun failure mem => r.kind_of_mem_broken mem, r.failures_eq hworkers⟩
  · intro failure mem
    rcases (r.mem_failures_iff hworkers).1 mem with mem | ⟨pair, _, rfl⟩
    · rw [r.kind_of_mem_broken mem]
      exact nofun
    · exact nofun
  · intro flag step
    exact r.started_eq hworkers ⟨flag, step⟩

theorem started_pairs_come_first_interrupted :
    1 ≤ 2 ∧ ∃ c, c ≤ 3 ∧
      (∀ k, interrupted.compared.count k = if k < c then 1 else 0) ∧
      ∃ broken, (∀ failure ∈ broken, failure.kind = .panicked) ∧
        interrupted.outcome.failures =
          broken ++ ((Pairing.all sampleTrees).drop c).map Failure.ofCancelled := by
  obtain ⟨c, le, compared, _, failures, _⟩ := interrupted.started_pairs_come_first (by decide)
  exact ⟨by decide, c, le, compared, failures⟩

end Starting

section Matrices

/-- Both matrices have the size of the batch, are symmetric and keep their diagonals.  Both cells
of a pair with a result hold what the result says, and both cells of a pair with a failure hold
zero. -/
theorem matrices_agree (hworkers : 1 ≤ workers) :
    (r.outcome.similarity.size = trees.length ∧
      r.outcome.similarity.cells.size = trees.length * trees.length ∧
      r.outcome.distance.size = trees.length ∧
      r.outcome.distance.cells.size = trees.length * trees.length) ∧
    (∀ i j, i < trees.length → j < trees.length →
      r.outcome.similarity.get? i j = r.outcome.similarity.get? j i ∧
      r.outcome.distance.get? i j = r.outcome.distance.get? j i) ∧
    (∀ i, i < trees.length →
      r.outcome.similarity.get? i i = some .one ∧ r.outcome.distance.get? i i = some 0) ∧
    (∀ result ∈ r.outcome.results,
      r.outcome.similarity.get? result.i result.j = some result.similarity ∧
      r.outcome.similarity.get? result.j result.i = some result.similarity ∧
      r.outcome.distance.get? result.i result.j = some result.distance ∧
      r.outcome.distance.get? result.j result.i = some result.distance) ∧
    (∀ failure ∈ r.outcome.failures,
      r.outcome.similarity.get? failure.i failure.j = some .zero ∧
      r.outcome.similarity.get? failure.j failure.i = some .zero ∧
      r.outcome.distance.get? failure.i failure.j = some 0 ∧
      r.outcome.distance.get? failure.j failure.i = some 0) := by
  have similarity := r.accounts.records.similarity
  have distance := r.accounts.records.distance
  refine ⟨⟨similarity.size_eq, ?_, distance.size_eq, ?_⟩, ?_, ?_, ?_, ?_⟩
  · rw [← similarity.size_eq]
    exact similarity.square
  · rw [← distance.size_eq]
    exact distance.square
  · intro i j hi hj
    exact ⟨similarity.symmetric hi hj, distance.symmetric hi hj⟩
  · intro i hi
    exact ⟨similarity.onDiagonal i hi, distance.onDiagonal i hi⟩
  · intro result mem
    obtain ⟨first, second⟩ := similarity.written result.i result.j result.similarity
      (List.mem_map_of_mem mem)
    obtain ⟨third, fourth⟩ := distance.written result.i result.j result.distance
      (List.mem_map_of_mem mem)
    exact ⟨first, second, third, fourth⟩
  · intro failure mem
    obtain ⟨hij, hj, absent⟩ := r.no_result_of_mem_failures hworkers mem
    obtain ⟨first, second⟩ := similarity.unwritten failure.i failure.j hij hj
      (by rw [List.map_map]; exact absent)
    obtain ⟨third, fourth⟩ := distance.unwritten failure.i failure.j hij hj
      (by rw [List.map_map]; exact absent)
    exact ⟨first, second, third, fourth⟩

theorem matrices_agree_interrupted :
    1 ≤ 2 ∧
    interrupted.outcome.distance.get? 1 0 = some 1 ∧
    interrupted.outcome.similarity.get? 2 0 = some .zero ∧
    interrupted.outcome.similarity.get? 2 2 = some .one := by
  obtain ⟨_, _, diagonal, results, failures⟩ := interrupted.matrices_agree (by decide)
  refine ⟨by decide, ?_, ?_, (diagonal 2 (by decide)).1⟩
  · exact (results ⟨0, 1, 1, .zero⟩ (.head _)).2.2.2
  · exact (failures ⟨0, 2, .panicked, "malformed tree"⟩ (.head _)).2.1

end Matrices

end FinishedRun
end Pool
end Likeness
