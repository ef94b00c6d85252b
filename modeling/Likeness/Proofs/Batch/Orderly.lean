import Likeness.Proofs.Batch.Records
import Likeness.Proofs.Similarity

/-!
# Orderly batches

A batch that comes from comparing a collection is orderly: its identifiers ascend, its results are
of different pairs of them, and its matrix holds the results and nothing else.  So its records,
taken in the order of places, are in the order of their names.

**Main statements.**
* `Collection.ascending_ofList`: the names of a collection.
* `FinishedRun.isOrderly`: whatever the workers do, the batch is orderly.
* `Batch.IsOrderly.exists_sorted`: the records in order.
* `Batch.Compared`: the batches that comparing may end with.
-/

namespace Likeness

namespace Collection

theorem mem_names_insert {name other : String} {tree : Tree} {trees : Collection}
    (mem : other ∈ (Collection.insert name tree trees).map Prod.fst) :
    other = name ∨ other ∈ trees.map Prod.fst := by
  induction trees with
  | nil => exact Or.inl (List.mem_singleton.1 mem)
  | cons first rest ih =>
      rw [Collection.insert] at mem
      split at mem
      · exact List.mem_cons.1 mem
      · split at mem
        · rcases List.mem_cons.1 mem with rfl | mem
          · exact Or.inl rfl
          · exact Or.inr (.tail _ mem)
        · rcases List.mem_cons.1 mem with rfl | mem
          · exact Or.inr (.head _)
          · exact (ih mem).imp_right (List.Mem.tail _)

theorem ascending_insert (name : String) (tree : Tree) {trees : Collection}
    (ascending : (trees.map Prod.fst).Pairwise (· < ·)) :
    ((Collection.insert name tree trees).map Prod.fst).Pairwise (· < ·) := by
  induction trees with
  | nil => exact List.pairwise_singleton _ _
  | cons first rest ih =>
      obtain ⟨lead, behind⟩ := List.pairwise_cons.1 ascending
      rw [Collection.insert]
      split
      · next less =>
          refine List.pairwise_cons.2 ⟨?_, ascending⟩
          intro other mem
          rcases List.mem_cons.1 mem with rfl | mem
          · exact less
          · exact String.lt_trans less (lead other mem)
      · next notLess =>
          split
          · next same =>
              refine List.pairwise_cons.2 ⟨?_, behind⟩
              intro other mem
              exact same ▸ lead other mem
          · next apart =>
              refine List.pairwise_cons.2 ⟨?_, ih behind⟩
              intro other mem
              rcases mem_names_insert mem with rfl | mem
              · by_contra notGreater
                exact apart (String.le_antisymm notGreater notLess)
              · exact lead other mem

/-- The names of a collection ascend. -/
theorem ascending_ofList (entries : List (String × Tree)) :
    ((Collection.ofList entries).map Prod.fst).Pairwise (· < ·) := by
  refine List.foldlRecOn
    (motive := fun trees : Collection => (trees.map Prod.fst).Pairwise (· < ·)) entries _ List.Pairwise.nil ?_
  intro trees ascending entry _
  exact ascending_insert entry.1 entry.2 ascending

end Collection

/-- What is true of a batch that comes from comparing. -/
structure Batch.IsOrderly (batch : Batch) : Prop where
  ascending : batch.identifiers.Pairwise (· < ·)
  inRange : ∀ r ∈ batch.results, r.i < r.j ∧ r.j < batch.identifiers.length
  apart : (batch.results.map PairResult.place).Nodup
  similarity : batch.similarity.Holds batch.identifiers.length .one .zero
    (batch.results.map (Ledger.entry PairResult.similarity))
  /-- No similarity is minus zero. -/
  unsigned : ∀ r ∈ batch.results, r.similarity.isZero = true → r.similarity = .zero

namespace Pool
namespace FinishedRun

variable {trees : List Tree} {workers every : Nat} {verdict : Pairing → Verdict}
  (r : FinishedRun (.ofTrees workers every verdict trees))

/-- A batch is orderly, however many of its comparisons break off or are not started. -/
theorem isOrderly (scored : ∀ pair score, verdict pair = .ok score →
      score = scorePair pair.left pair.right)
    {identifiers : List String} (length : identifiers.length = trees.length)
    (ascending : identifiers.Pairwise (· < ·)) (elapsed : Nat) :
    (Batch.assemble identifiers r.outcome elapsed).IsOrderly where
  ascending := ascending
  inRange result mem := by
    obtain ⟨order, bound⟩ := r.lt_of_mem_results mem
    exact ⟨order, Nat.lt_of_lt_of_eq bound length.symm⟩
  apart := r.nodup_result_places
  similarity := by
    have holds := r.accounts.records.similarity
    rw [← length] at holds
    exact holds
  unsigned result mem zero := by
    obtain ⟨pair, _, score, came, rfl⟩ := r.mem_results_iff.1 mem
    obtain rfl := scored pair score came
    exact similarity_eq_zero zero

end FinishedRun
end Pool

namespace Batch
namespace IsOrderly

variable {batch : Batch} (h : batch.IsOrderly)
include h

theorem before_sortedResults :
    batch.sortedResults.Pairwise (fun a b => a.i < b.i ∨ a.i = b.i ∧ a.j < b.j) := by
  have perm : batch.sortedResults.Perm batch.results := List.mergeSort_perm _ _
  have ordered : batch.sortedResults.Pairwise (fun a b => a.notAfter b = true) :=
    List.pairwise_mergeSort PairResult.notAfter_trans PairResult.notAfter_total batch.results
  have distinct := (perm.map PairResult.place).nodup_iff.2 h.apart
  rw [List.Nodup, List.pairwise_map] at distinct
  refine (ordered.and distinct).imp ?_
  rintro a b ⟨notAfter, other⟩
  rw [PairResult.notAfter_iff] at notAfter
  rw [PairResult.place, PairResult.place, Ne, Prod.mk.injEq] at other
  omega

theorem identifiers_lt {i j : Nat} {a b : String} (less : i < j)
    (first : batch.identifiers[i]? = some a) (second : batch.identifiers[j]? = some b) :
    a < b := by
  obtain ⟨hi, rfl⟩ := List.getElem?_eq_some_iff.1 first
  obtain ⟨hj, rfl⟩ := List.getElem?_eq_some_iff.1 second
  exact List.pairwise_iff_getElem.1 h.ascending i j hi hj less

/-- In the order of places, records are in the order of their names. -/
theorem exists_sorted {records : List Record} (there : batch.records? = some records) :
    ∃ sorted, batch.sortedResults.mapM (record? batch.identifiers) = some sorted ∧
      sorted.Perm records ∧
      sorted.Pairwise (fun a b => a.file1 < b.file1 ∨ a.file1 = b.file1 ∧ a.file2 < b.file2) := by
  have perm : batch.sortedResults.Perm batch.results := List.mergeSort_perm _ _
  have all := mapM_eq_some_iff.1 there
  have each : ∀ result ∈ batch.results, ∃ record,
      record? batch.identifiers result = some record := by
    intro result mem
    have listed := List.mem_map_of_mem (f := record? batch.identifiers) mem
    rw [all] at listed
    obtain ⟨record, _, same⟩ := List.mem_map.1 listed
    exact ⟨record, same.symm⟩
  -- the same records, in the order of the sorted results
  choose! record recorded using each
  have same : records = batch.results.map record := by
    refine List.map_injective_iff.2 (Option.some_injective Record) ?_
    rw [← all, List.map_map]
    exact List.map_congr_left recorded
  have recorded' : ∀ result ∈ batch.sortedResults,
      record? batch.identifiers result = some (record result) := fun result mem =>
    recorded result (perm.mem_iff.1 mem)
  refine ⟨batch.sortedResults.map record, ?_, ?_, ?_⟩
  · rw [mapM_eq_some_iff, List.map_map]
    exact List.map_congr_left recorded'
  · rw [same]
    exact perm.map record
  · refine List.pairwise_map.2 (h.before_sortedResults.imp_of_mem ?_)
    intro a b ha hb before
    obtain ⟨first, second, _⟩ := record?_eq_some_iff.1 (recorded' a ha)
    obtain ⟨third, fourth, _⟩ := record?_eq_some_iff.1 (recorded' b hb)
    rcases before with less | ⟨same, less⟩
    · exact Or.inl (h.identifiers_lt less first third)
    · rw [same, third, Option.some.injEq] at first
      exact Or.inr ⟨first.symm, h.identifiers_lt less second fourth⟩

end IsOrderly

/-- The batches that comparing at least two named trees may end with: there are any number of
workers, whose steps are interleaved in any way, comparing two trees comes to a score or breaks
off, and the batch may be cancelled at any moment. -/
inductive Compared : Batch → Prop
  | assemble {entries : List (String × Tree)} {workers every : Nat} {verdict : Pairing → Verdict}
      (enough : 2 ≤ (Collection.ofList entries).length) (hworkers : 1 ≤ workers)
      (r : Pool.FinishedRun
        (.ofTrees workers every verdict ((Collection.ofList entries).map Prod.snd)))
      (elapsed : Nat) :
      Compared (.assemble ((Collection.ofList entries).map Prod.fst) r.outcome elapsed)

namespace Compared

variable {batch : Batch} (h : batch.Compared)
include h

theorem enough : 2 ≤ batch.identifiers.length := by
  cases h with
  | assemble enough => exact Nat.le_trans enough (Nat.le_of_eq (List.length_map _).symm)

theorem ascending : batch.identifiers.Pairwise (· < ·) := by
  cases h with
  | assemble => exact Collection.ascending_ofList _

theorem inRange : ∀ r ∈ batch.results, r.i < r.j ∧ r.j < batch.identifiers.length := by
  cases h with
  | assemble _ _ r =>
      intro result mem
      obtain ⟨order, bound⟩ := r.lt_of_mem_results mem
      rw [List.length_map] at bound
      exact ⟨order, Nat.lt_of_lt_of_eq bound (List.length_map _).symm⟩

end Compared

end Batch
end Likeness
