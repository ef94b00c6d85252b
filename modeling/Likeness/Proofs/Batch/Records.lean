import Likeness.Proofs.Answer
import Likeness.Proofs.Batch.Independence

/-!
# The records of a batch

A record addresses a pair by the identifiers of both trees.  In a finished batch every result has
a record, and if the identifiers are in ascending order then so are both names of a record.

**Main statements.**
* `FinishedRun.length_results_add_failures`: every pair has a result or a failure.
* `FinishedRun.exists_records`: every result has a record.
-/

namespace Likeness

namespace Batch

theorem record?_eq_some_iff {identifiers : List String} {r : PairResult} {record : Record} :
    record? identifiers r = some record ↔
      identifiers[r.i]? = some record.file1 ∧ identifiers[r.j]? = some record.file2 ∧
        record.distance = r.distance ∧ record.similarity = r.similarity := by
  cases record with
  | mk file1 file2 distance similarity =>
      simp only [record?, bind, Option.bind_eq_some_iff, pure, Option.some.injEq, Record.mk.injEq]
      constructor
      · rintro ⟨_, first, _, second, rfl, rfl, rfl, rfl⟩
        exact ⟨first, second, rfl, rfl⟩
      · rintro ⟨first, second, rfl, rfl⟩
        exact ⟨file1, first, file2, second, rfl, rfl, rfl, rfl⟩

/-- A record is the one of a result. -/
theorem result_of_mem_records {batch : Batch} {records : List Record}
    (there : batch.records? = some records) {record : Record} (mem : record ∈ records) :
    ∃ r ∈ batch.results,
      batch.identifiers[r.i]? = some record.file1 ∧ batch.identifiers[r.j]? = some record.file2 ∧
        record.distance = r.distance ∧ record.similarity = r.similarity := by
  have listed := List.mem_map_of_mem (f := some) mem
  rw [← mapM_eq_some_iff.1 there] at listed
  obtain ⟨r, inside, recorded⟩ := List.mem_map.1 listed
  exact ⟨r, inside, record?_eq_some_iff.1 recorded⟩

end Batch

namespace Pool
namespace FinishedRun

variable {trees : List Tree} {workers every : Nat} {verdict : Pairing → Verdict}
  (r : FinishedRun (.ofTrees workers every verdict trees))

theorem length_results_add_failures (hworkers : 1 ≤ workers) :
    r.outcome.results.length + r.outcome.failures.length =
      trees.length * (trees.length - 1) / 2 := by
  have places := (r.perm_outcome_places hworkers).length_eq
  simpa [Outcome.places, Pairing.length_all] using places

/-- A result is of two places in order. -/
theorem lt_of_mem_results {result : PairResult} (mem : result ∈ r.outcome.results) :
    result.i < result.j ∧ result.j < trees.length := by
  rw [r.perm_results.mem_iff, List.mem_filterMap] at mem
  obtain ⟨pair, taken, came⟩ := mem
  obtain ⟨_, _, rfl⟩ := Pairing.result?_eq_some_iff.1 came
  have there := List.mem_of_mem_take taken
  exact ⟨(Pairing.mem_all_iff.1 there).1, Pairing.lt_length_of_mem_all there⟩

/-- Every result has a record, whose names are in the order of the identifiers. -/
theorem exists_records {identifiers : List String} (length : identifiers.length = trees.length)
    (ascending : identifiers.Pairwise (· < ·)) (elapsed : Nat) :
    ∃ records, (Batch.assemble identifiers r.outcome elapsed).records? = some records ∧
      ∀ record ∈ records,
        record.file1 < record.file2 ∧ record.file1 ∈ identifiers ∧ record.file2 ∈ identifiers := by
  have each : ∀ result ∈ r.outcome.results, ∃ record,
      Batch.record? identifiers result = some record ∧
        record.file1 < record.file2 ∧ record.file1 ∈ identifiers ∧
          record.file2 ∈ identifiers := by
    intro result mem
    obtain ⟨order, bound⟩ := r.lt_of_mem_results mem
    have second : result.j < identifiers.length := Nat.lt_of_lt_of_eq bound length.symm
    have first : result.i < identifiers.length := Nat.lt_trans order second
    refine ⟨⟨identifiers[result.i], identifiers[result.j], result.distance, result.similarity⟩,
      ?_, ?_, ?_, ?_⟩
    · exact Batch.record?_eq_some_iff.2
        ⟨List.getElem?_eq_getElem first, List.getElem?_eq_getElem second, rfl, rfl⟩
    · exact List.pairwise_iff_getElem.1 ascending _ _ first second order
    · exact List.getElem_mem first
    · exact List.getElem_mem second
  choose! record recorded facts using each
  refine ⟨r.outcome.results.map record, ?_, ?_⟩
  · rw [Batch.records?, mapM_eq_some_iff, List.map_map]
    exact List.map_congr_left recorded
  · intro one mem
    obtain ⟨result, there, rfl⟩ := List.mem_map.1 mem
    exact facts result there

end FinishedRun
end Pool
end Likeness
