import Likeness.Proofs.Batch.Records
import Likeness.Proofs.Binary64.Order

/-!
# The most similar pair

The best result is found by going through the results in the order of their places and keeping the
first one that is not exceeded.  If all similarities are numbers, what is kept after each result is
the best of those so far, so that the order of the reports does not matter.

**Main statements.**
* `PairResult.IsBest`: the first one of the most similar results.
* `PairResult.IsBest.better`: one result more.
* `exists_isBest`: there is a best one of any results.
* `FinishedRun.best_is_first_of_most_similar`: the record in the summary of a batch.
-/

namespace Likeness

/-- No result is more similar, and those that are as similar do not stand before this one. -/
structure PairResult.IsBest (best : PairResult) (results : List PairResult) : Prop where
  mem : best ∈ results
  most : ∀ other ∈ results, other.similarity.le best.similarity = true
  first : ∀ other ∈ results, best.similarity.le other.similarity = true →
    best.i < other.i ∨ best.i = other.i ∧ best.j ≤ other.j

namespace PairResult.IsBest

variable {best next : PairResult} {seen rest results : List PairResult}

theorem singleton (number : next.similarity.isNaN = false) : next.IsBest [next] where
  mem := List.mem_singleton_self next
  most other mem := by
    cases List.mem_singleton.1 mem
    exact Binary64.le_self number
  first other mem _ := by
    cases List.mem_singleton.1 mem
    exact Or.inr ⟨rfl, Nat.le_refl _⟩

theorem perm (h : best.IsBest seen) (same : ∀ r, r ∈ seen ↔ r ∈ results) : best.IsBest results where
  mem := (same best).1 h.mem
  most other mem := h.most other ((same other).2 mem)
  first other mem := h.first other ((same other).2 mem)

/-- The result before stays if the next one, which stands behind all, does not exceed it. -/
theorem better (h : best.IsBest seen) (after : ∀ r ∈ seen, r.notAfter next = true)
    (numbers : ∀ r ∈ seen, r.similarity.isNaN = false) (number : next.similarity.isNaN = false) :
    ∃ best', Likeness.better (some best) next = some best' ∧ best'.IsBest (seen ++ [next]) := by
  by_cases exceeds : next.similarity.le best.similarity = true
  · refine ⟨best, if_pos exceeds, List.mem_append_left _ h.mem, ?_, ?_⟩
    · intro other mem
      rcases List.mem_append.1 mem with before | here
      · exact h.most other before
      · cases List.mem_singleton.1 here
        exact exceeds
    · intro other mem atMost
      rcases List.mem_append.1 mem with before | here
      · exact h.first other before atMost
      · cases List.mem_singleton.1 here
        exact PairResult.notAfter_iff.1 (after best h.mem)
  · have numbered := numbers best h.mem
    have less : best.similarity.le next.similarity = true :=
      (Binary64.le_total number numbered).resolve_left exceeds
    refine ⟨next, if_neg exceeds, List.mem_append_right _ (List.mem_singleton_self next), ?_, ?_⟩
    · intro other mem
      rcases List.mem_append.1 mem with before | here
      · exact Binary64.le_trans (numbers other before) numbered number (h.most other before) less
      · cases List.mem_singleton.1 here
        exact Binary64.le_self number
    · intro other mem atMost
      rcases List.mem_append.1 mem with before | here
      · have above := Binary64.le_trans number (numbers other before) numbered atMost
          (h.most other before)
        exact absurd above exceeds
      · cases List.mem_singleton.1 here
        exact Or.inr ⟨rfl, Nat.le_refl _⟩

/-- By induction on the results that are left, with the best of those before. -/
theorem foldl_better (h : best.IsBest seen)
    (ordered : (seen ++ rest).Pairwise (fun a b => a.notAfter b = true))
    (numbers : ∀ r ∈ seen ++ rest, r.similarity.isNaN = false) :
    ∃ best', rest.foldl Likeness.better (some best) = some best' ∧
      best'.IsBest (seen ++ rest) := by
  induction rest generalizing best seen with
  | nil => exact ⟨best, rfl, by rwa [List.append_nil]⟩
  | cons next rest ih =>
      have after : ∀ r ∈ seen, r.notAfter next = true := fun r mem =>
        (List.pairwise_append.1 ordered).2.2 r mem next List.mem_cons_self
      obtain ⟨best', kept, h'⟩ := h.better after
        (fun r mem => numbers r (List.mem_append_left _ mem))
        (numbers next (List.mem_append_right _ List.mem_cons_self))
      rw [List.append_cons] at ordered numbers ⊢
      rw [List.foldl_cons, kept]
      exact ih h' ordered numbers

end PairResult.IsBest

theorem mostSimilar?_nil : mostSimilar? [] = none := by
  rw [mostSimilar?, sortResults, List.mergeSort_nil, List.foldl_nil]

/-- There is a best one of any results, and it is found whatever their order is. -/
theorem exists_isBest {results : List PairResult} (any : results ≠ [])
    (numbers : ∀ r ∈ results, r.similarity.isNaN = false) :
    ∃ best, mostSimilar? results = some best ∧ best.IsBest results := by
  have perm : (sortResults results).Perm results := List.mergeSort_perm _ _
  have ordered : (sortResults results).Pairwise (fun a b => a.notAfter b = true) :=
    List.pairwise_mergeSort PairResult.notAfter_trans PairResult.notAfter_total results
  have numbers' : ∀ r ∈ sortResults results, r.similarity.isNaN = false := fun r mem =>
    numbers r (perm.mem_iff.1 mem)
  obtain ⟨next, rest, sorted⟩ := List.exists_cons_of_ne_nil
    (fun none => any (List.nil_perm.1 (none ▸ perm)))
  rw [sorted] at ordered numbers' perm
  have single := PairResult.IsBest.singleton (numbers' next List.mem_cons_self)
  obtain ⟨best, found, isBest⟩ := single.foldl_better ordered numbers'
  refine ⟨best, ?_, isBest.perm fun r => perm.mem_iff⟩
  rw [mostSimilar?, sorted]
  exact found

namespace Pool
namespace FinishedRun

variable {trees : List Tree} {workers every : Nat} {verdict : Pairing → Verdict}

/-- The summary of a batch names the most similar pair, and the first one in the order of places if
there are several, whatever the order of the reports and whichever comparisons break off or are not
started.  It names none if there is no result. -/
theorem best_is_first_of_most_similar (r : FinishedRun (.ofTrees workers every verdict trees))
    {identifiers : List String} (length : identifiers.length = trees.length) (elapsed : Nat)
    (numbers : ∀ result ∈ r.outcome.results, result.similarity.isNaN = false) :
    let batch := Batch.assemble identifiers r.outcome elapsed
    (batch.results = [] → batch.summary.best? = none) ∧
    (batch.results ≠ [] → ∃ best ∈ batch.results, ∃ record,
      batch.summary.best? = some record ∧ Batch.record? identifiers best = some record ∧
      (∀ other ∈ batch.results, other.similarity.le best.similarity = true) ∧
      ∀ other ∈ batch.results, best.similarity.le other.similarity = true →
        best.i < other.i ∨ best.i = other.i ∧ best.j ≤ other.j) := by
  intro batch
  have summary : batch.summary.best? =
      (mostSimilar? batch.results).bind (Batch.record? identifiers) := rfl
  constructor
  · intro none
    rw [summary, none, mostSimilar?_nil, Option.bind_none]
  · intro any
    obtain ⟨best, found, isBest⟩ := exists_isBest any numbers
    obtain ⟨order, bound⟩ := r.lt_of_mem_results isBest.mem
    have second : best.j < identifiers.length := Nat.lt_of_lt_of_eq bound length.symm
    have recorded : Batch.record? identifiers best =
        some ⟨identifiers[best.i], identifiers[best.j], best.distance, best.similarity⟩ :=
      Batch.record?_eq_some_iff.2 ⟨List.getElem?_eq_getElem (Nat.lt_trans order second),
        List.getElem?_eq_getElem second, rfl, rfl⟩
    refine ⟨best, isBest.mem, _, ?_, recorded, isBest.most, isBest.first⟩
    rw [summary, found, Option.bind_some, recorded]

theorem results_overtaken :
    overtaken.outcome.results = [⟨1, 2, 1, .zero⟩, ⟨0, 1, 1, .zero⟩] := by
  decide +kernel

/-- Two pairs are as similar as each other.  The one that comes first has reported last. -/
theorem best_is_first_of_most_similar_overtaken :
    ["a", "b", "c"].length = (sampleCollection.map Prod.snd).length ∧
    (∀ result ∈ overtaken.outcome.results, result.similarity.isNaN = false) ∧
    (Batch.assemble ["a", "b", "c"] overtaken.outcome 3).summary.best? =
      some ⟨"a", "b", 1, .zero⟩ := by
  have numbers : ∀ result ∈ overtaken.outcome.results, result.similarity.isNaN = false := by
    rw [results_overtaken]
    decide
  have any : overtaken.outcome.results ≠ [] := by
    rw [results_overtaken]
    decide
  obtain ⟨best, mem, record, found, recorded, _, first⟩ :=
    (@best_is_first_of_most_similar _ _ _ _ overtaken ["a", "b", "c"] rfl 3 numbers).2 any
  refine ⟨rfl, numbers, ?_⟩
  have listed : (Batch.assemble ["a", "b", "c"] overtaken.outcome 3).results =
      [⟨1, 2, 1, .zero⟩, ⟨0, 1, 1, .zero⟩] := results_overtaken
  rw [listed] at mem first
  rcases List.mem_cons.1 mem with rfl | mem
  · have before := first ⟨0, 1, 1, .zero⟩ (.tail _ (.head _)) (by decide +kernel)
    exact absurd before (by decide)
  · cases List.mem_singleton.1 mem
    cases recorded
    exact found

end FinishedRun
end Pool
end Likeness
