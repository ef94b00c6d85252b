import Likeness.Digest.Run
import Likeness.Proofs.Batch.Outcome

/-!
# A batch does not depend on its schedule

Results and failures are listed in the order of the reports, which is not the same in any two
runs.  Their order in a finished batch is that of the places, though, and a run that is not
cancelled has a result or a failure of each pair.  So two such runs of the same trees differ in
nothing that is read off a batch but its times and its mean.

**Main statements.**
* `sortResults_eq`: sorting lists results in row-major order, whatever order they come in.
* `FinishedRun.sortResults_outcome`: the sorted results of a run.
* `FinishedRun.batch_independent_of_schedule`: two runs that are not cancelled.
-/

namespace Likeness

section Sorting

theorem PairResult.notAfter_iff {a b : PairResult} :
    a.notAfter b = true ↔ a.i < b.i ∨ a.i = b.i ∧ a.j ≤ b.j := by
  simp [notAfter]

theorem PairResult.notAfter_trans (a b c : PairResult) (first : a.notAfter b = true)
    (second : b.notAfter c = true) : a.notAfter c = true := by
  rw [notAfter_iff] at *
  omega

theorem PairResult.notAfter_total (a b : PairResult) :
    (a.notAfter b || b.notAfter a) = true := by
  rw [Bool.or_eq_true, notAfter_iff, notAfter_iff]
  omega

theorem PairResult.place_eq_of_notAfter {a b : PairResult} (first : a.notAfter b = true)
    (second : b.notAfter a = true) : a.place = b.place := by
  rw [notAfter_iff] at first second
  rw [place, place, Prod.mk.injEq]
  omega

/-- Results with different places are sorted into the one list of them that is in order. -/
theorem sortResults_eq {results listed : List PairResult} (perm : results.Perm listed)
    (ordered : listed.Pairwise (fun a b => a.notAfter b = true))
    (distinct : (listed.map PairResult.place).Nodup) : sortResults results = listed := by
  have sorted := (List.mergeSort_perm results PairResult.notAfter).trans perm
  refine List.Perm.eq_of_pairwise ?_
    (List.pairwise_mergeSort PairResult.notAfter_trans PairResult.notAfter_total results)
    ordered sorted
  intro a b ha hb first second
  exact List.inj_on_of_nodup_map distinct (sorted.mem_iff.1 ha) hb
    (PairResult.place_eq_of_notAfter first second)

end Sorting

namespace Pairing

/-- The results of pairs in row-major order are in order. -/
theorem pairwise_results {pairs : List Pairing} (ordered : pairs.Pairwise Before)
    (verdict : Pairing → Verdict) :
    (pairs.filterMap (fun pair => pair.result? (verdict pair))).Pairwise
      (fun a b => a.notAfter b = true) := by
  refine List.Pairwise.filterMap _ ?_ ordered
  intro a b before r hr s hs
  obtain ⟨_, _, rfl⟩ := result?_eq_some_iff.1 hr
  obtain ⟨_, _, rfl⟩ := result?_eq_some_iff.1 hs
  rw [PairResult.notAfter_iff]
  exact before.imp_right fun h => ⟨h.1, Nat.le_of_lt h.2⟩

end Pairing

namespace Pool
namespace FinishedRun

section Undisturbed

variable {trees : List Tree} {workers every : Nat} {verdict : Pairing → Verdict}
  (r : FinishedRun (.ofTrees workers every verdict trees))

theorem nodup_result_places :
    (r.outcome.results.map PairResult.place).Nodup := by
  have places := (r.perm_results.map PairResult.place).nodup_iff
  rw [places]
  have listed := Pairing.perm_places verdict ((Pairing.all trees).take r.started)
  have distinct : (((Pairing.all trees).take r.started).map Pairing.place).Nodup := by
    rw [List.map_take]
    exact (Pairing.nodup_places trees).take
  exact List.Nodup.of_append_left (listed.nodup_iff.2 distinct)

/-- In the end the results of the started pairs stand in row-major order. -/
theorem sortResults_outcome :
    sortResults r.outcome.results =
      ((Pairing.all trees).take r.started).filterMap (fun pair => pair.result? (verdict pair)) :=
  sortResults_eq r.perm_results
    (Pairing.pairwise_results ((Pairing.pairwise_all trees).take) verdict)
    ((r.perm_results.map PairResult.place).nodup_iff.1 r.nodup_result_places)

variable (hworkers : 1 ≤ workers)
include hworkers

theorem perm_results_of_undisturbed (h : r.Undisturbed) :
    r.outcome.results.Perm
      ((Pairing.all trees).filterMap (fun pair => pair.result? (verdict pair))) := by
  have results := r.perm_results
  rwa [r.started_eq hworkers h, List.take_length] at results

theorem perm_failures_of_undisturbed (h : r.Undisturbed) :
    r.outcome.failures.Perm
      ((Pairing.all trees).filterMap (fun pair => pair.breakage? (verdict pair))) := by
  have broken := r.perm_broken
  rw [r.started_eq hworkers h, List.take_length] at broken
  rw [r.failures_eq hworkers, r.started_eq hworkers h, List.drop_length, List.map_nil,
    List.append_nil]
  exact broken

end Undisturbed

section Independence

variable {collection : Collection} {workers workers' every every' : Nat}
  {verdict : Pairing → Verdict}

/-- Two runs of the same named trees that are not cancelled, with any numbers of workers and in any
interleavings, come to the same sorted results, the same failures up to their order, the same
matrices, the same most similar pair and the same bytes that identify the batch. -/
theorem batch_independent_of_schedule
    (first : FinishedRun (.ofTrees workers every verdict (collection.map Prod.snd)))
    (second : FinishedRun (.ofTrees workers' every' verdict (collection.map Prod.snd)))
    (hworkers : 1 ≤ workers) (hworkers' : 1 ≤ workers')
    (hfirst : first.Undisturbed) (hsecond : second.Undisturbed) (elapsed elapsed' : Nat) :
    let batch := Batch.assemble (collection.map Prod.fst) first.outcome elapsed
    let batch' := Batch.assemble (collection.map Prod.fst) second.outcome elapsed'
    batch.sortedResults = batch'.sortedResults ∧
    batch.failures.Perm batch'.failures ∧
    batch.similarity = batch'.similarity ∧
    batch.distance = batch'.distance ∧
    batch.summary.best? = batch'.summary.best? ∧
    batch.digestBytes = batch'.digestBytes := by
  have results := (first.perm_results_of_undisturbed hworkers hfirst).trans
    (second.perm_results_of_undisturbed hworkers' hsecond).symm
  have failures := (first.perm_failures_of_undisturbed hworkers hfirst).trans
    (second.perm_failures_of_undisturbed hworkers' hsecond).symm
  have sorted : sortResults first.outcome.results = sortResults second.outcome.results := by
    rw [first.sortResults_outcome, second.sortResults_outcome, first.started_eq hworkers hfirst,
      second.started_eq hworkers' hsecond]
  refine ⟨sorted, failures, ?_, ?_, ?_, ?_⟩
  · exact first.accounts.records.similarity.eq_of_perm second.accounts.records.similarity
      (results.map _)
  · exact first.accounts.records.distance.eq_of_perm second.accounts.records.distance
      (results.map _)
  · simp only [Batch.assemble, mostSimilar?, sorted]
  · simp only [Batch.digestBytes, Batch.sortedResults, Batch.assemble, sorted]

/-- Three named trees. -/
def sampleCollection : Collection :=
  [("a", .leaf "identifier" "x"), ("b", .leaf "identifier" "y"), ("c", .leaf "identifier" "z")]

/-- One worker takes the pairs in their order. -/
def inOrder : FinishedRun (.ofTrees 1 10 sampleVerdict (sampleCollection.map Prod.snd)) :=
  ofActions _ false
    [.look 0, .claim 0, .compare 0, .send 0, .receive, .look 0, .claim 0, .compare 0, .send 0,
      .receive, .look 0, .claim 0, .compare 0, .send 0, .receive, .look 0, .claim 0] rfl

/-- One of two workers is slow, so that the first pair reports last. -/
def overtaken : FinishedRun (.ofTrees 2 1 sampleVerdict (sampleCollection.map Prod.snd)) :=
  ofActions _ false
    [.look 0, .claim 0, .look 1, .claim 1, .compare 1, .send 1, .look 1, .claim 1, .compare 1,
      .send 1, .receive, .receive, .compare 0, .look 1, .send 0, .claim 1, .look 0, .receive,
      .claim 0] rfl

theorem batch_independent_of_schedule_overtaken :
    1 ≤ 1 ∧ 1 ≤ 2 ∧ inOrder.Undisturbed ∧ overtaken.Undisturbed ∧
    inOrder.outcome.results ≠ overtaken.outcome.results ∧
    sortResults inOrder.outcome.results = sortResults overtaken.outcome.results ∧
    inOrder.outcome.distance = overtaken.outcome.distance ∧
    (Batch.assemble ["a", "b", "c"] inOrder.outcome 5).digestBytes =
      (Batch.assemble ["a", "b", "c"] overtaken.outcome 3).digestBytes := by
  have quiet : inOrder.Undisturbed := ⟨rfl, by decide⟩
  have quiet' : overtaken.Undisturbed := ⟨rfl, by decide⟩
  obtain ⟨sorted, _, _, distance, _, bytes⟩ :=
    batch_independent_of_schedule inOrder overtaken (by decide) (by decide) quiet quiet' 5 3
  exact ⟨by decide, by decide, quiet, quiet', by decide, sorted, distance, bytes⟩

end Independence

end FinishedRun
end Pool
end Likeness
