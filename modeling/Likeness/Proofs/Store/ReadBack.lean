import Likeness.Proofs.Store.History
import Likeness.Proofs.Store.Memory
import Likeness.Proofs.Store.Reading
import Likeness.Report.Csv

/-!
# A saved batch is read back

A database keeps whole runs: each row belongs to a run that is there.  So the rows under the name of
a new run are those of its batch, and the batch is read back from them: its records in the order of
places, its identifiers, and its matrix.

**Main statements.**
* `Store.keepsRun_of_save`: the rows of a run that has just been saved.
* `Store.exists_read_of_save`: the tables of a store.
* `saved_batch_is_read_back`: comparing, saving and reading.
-/

namespace Likeness
namespace Store

section Keeping

variable {store kept : Store} {name? : Option String} {params : Params} {batch : Batch}
  {clock : Nat} {runId : String}

/-- Nothing else stands under the name of a run that has just been saved. -/
theorem rowsOf_grown_self (sound : store.IsSound) {new : Part → List (List Cell)}
    (ofRun : IsOf runId new)
    (fresh : ∀ row ∈ store.runs.rows,
      (Cell.text runId).agrees (.plain .utf8) (Table.cell row 0) = false) (part : Part) :
    ((store.grown new).table part).rowsOf runId = new part := by
  rw [rowsOf_eq (sound.standard.grown new), table_grown, List.filter_append]
  have old : (store.table part).rows.filter (fun row =>
      (Table.cell row 0).agrees (.plain .utf8) (.text runId)) = [] := by
    rw [List.filter_eq_nil_iff]
    intro row mem
    -- an older row belongs to an older run, which has another name
    obtain ⟨run, there, same⟩ := sound.owned part row mem
    rw [← same, Cell.agrees_comm, fresh run there]
    exact Bool.false_ne_true
  have all : (new part).filter (fun row =>
      (Table.cell row 0).agrees (.plain .utf8) (.text runId)) = new part := by
    rw [List.filter_eq_self]
    intro row mem
    rw [ofRun part row mem, Cell.agrees_text_iff]
  rw [old, all, List.nil_append]

/-- The rows of a run that has just been saved. -/
theorem keepsRun_of_save (sound : store.IsSound)
    (saved : store.save name? params batch clock = .ok (runId, kept)) :
    ∃ records, batch.records? = some records ∧ runId = (runRow name? params batch clock).runId ∧
      kept.KeepsRun (runRow name? params batch clock) batch.identifiers records ∧
      ∀ r ∈ records, Table.missing? Definition.pairs (pairRow runId r).row = none := by
  have fresh := agrees_of_save sound.standard saved
  obtain ⟨records, there, rfl, rfl, facts⟩ := save_eq_ok sound.standard saved
  have ofRun : IsOf _ (added name? params batch records clock) := isOf_added
  have rows := rowsOf_grown_self sound ofRun fresh
  refine ⟨records, there, rfl, ⟨rows .runs, rows .files, rows .pairs, sound.whole .files,
    sound.whole .pairs⟩, ?_⟩
  intro r mem
  exact (facts .pairs).1 _ (List.mem_map_of_mem (List.mem_map_of_mem mem))

/-- What the tables say of a batch that they have just taken: its records in the order of places,
its identifiers and its matrix. -/
theorem exists_read_of_save (sound : store.IsSound) (orderly : batch.IsOrderly)
    (places : batch.identifiers.length ≤ 2 ^ 63)
    (distances : ∀ result ∈ batch.results, result.distance < 2 ^ 64)
    (saved : store.save name? params batch clock = .ok (runId, kept)) :
    ∃ records, batch.sortedResults.mapM (Batch.record? batch.identifiers) = some records ∧
      kept.results runId = .ok records ∧
      kept.matrix runId = .ok (batch.identifiers, batch.similarity) := by
  have standard := (sound.save saved).standard
  obtain ⟨records, there, rfl, keeps, complete⟩ := keepsRun_of_save sound saved
  obtain ⟨sorted, listed, perm, ordered⟩ := orderly.exists_sorted there
  have loaded := results_eq standard keeps perm ordered fun columns record mem => by
    obtain ⟨result, inside, _, _, distance, similarity⟩ := Batch.result_of_mem_records there mem
    refine readRecord_eq columns ?_ ?_ (complete record mem)
    · rw [distance]
      exact distances result inside
    · rw [similarity]
      exact orderly.unsigned result inside
  exact ⟨sorted, listed, loaded, matrix_eq standard keeps orderly places listed loaded⟩

end Keeping
end Store

open Pool

/-- Whatever batches have been saved to a database before, a batch that is saved is read back as
long as nothing else is saved to it: its records in the order of places, its identifiers, and its
matrix, in which failed pairs have zeros; so the table of the matrix has the same text.  Places and
distances fit machine words. -/
theorem saved_batch_is_read_back {W : Type} [Host (StateM W)] [Database (StateM W)]
    {view : View W} {name : String} (kept : view.IsTransactional name)
    {earlier : List SaveRequest} {before : W} (history : view.History name earlier before)
    {entries : List (String × Tree)} {workers every : Nat} {verdict : Pairing → Verdict}
    (scored : ∀ pair score, verdict pair = .ok score → score = scorePair pair.left pair.right)
    (hworkers : 1 ≤ workers)
    (r : FinishedRun (.ofTrees workers every verdict ((Collection.ofList entries).map Prod.snd)))
    (places : (Collection.ofList entries).length ≤ 2 ^ 63)
    (distances : ∀ result ∈ r.outcome.results, result.distance < 2 ^ 64)
    {elapsed : Nat} {name? : Option String} {params : Params} {runId : String} {after : W}
    (saved : saveIn before name name? params
      (.assemble ((Collection.ofList entries).map Prod.fst) r.outcome elapsed) =
        (.ok runId, after)) :
    let batch := Batch.assemble ((Collection.ofList entries).map Prod.fst) r.outcome elapsed
    view.IsReady after ∧
    (∃ records, batch.sortedResults.mapM (Batch.record? batch.identifiers) = some records ∧
      ∀ later, view.held later = view.held after → view.IsReady later →
        (resultsIn later name runId).1 = .ok records ∧
        (matrixIn later name runId).1 = .ok (batch.identifiers, batch.similarity) ∧
        (matrixIn later name runId).1.map (fun loaded => Csv.matrix? loaded.1 loaded.2) =
          .ok (Csv.matrix? batch.identifiers batch.similarity)) ∧
    ∀ failure ∈ batch.failures, batch.similarity.get? failure.i failure.j = some .zero ∧
      batch.similarity.get? failure.j failure.i = some .zero := by
  intro batch
  have orderly : batch.IsOrderly :=
    r.isOrderly scored (by simp) (Collection.ascending_ofList entries) elapsed
  have fits : batch.identifiers.length ≤ 2 ^ 63 := by
    rw [show batch.identifiers = (Collection.ofList entries).map Prod.fst from rfl, List.length_map]
    exact places
  obtain ⟨ready, store, taken, held⟩ := kept.save_of_saveIn saved
  obtain ⟨records, listed, loaded, matrix⟩ :=
    Store.exists_read_of_save (history.isSound kept) orderly fits distances taken
  refine ⟨ready, ⟨records, listed, ?_⟩, ?_⟩
  · intro later same ready'
    have tables : (view.held later).store = store := by rw [same, held, Holdings.store_ofStore]
    rw [kept.resultsIn_eq ready', kept.matrixIn_eq ready', tables, loaded, matrix]
    exact ⟨rfl, rfl, rfl⟩
  · intro failure mem
    obtain ⟨order, bound, absent⟩ := r.no_result_of_mem_failures hworkers mem
    exact r.accounts.records.similarity.unwritten failure.i failure.j order bound
      (by rw [List.map_map]; exact absent)

section Samples

/-- Three named trees, not in the order of their names. -/
def unsortedEntries : List (String × Tree) :=
  [("b", .leaf "identifier" "y"), ("c", .leaf "identifier" "z"), ("a", .leaf "identifier" "x")]

/-- The comparison of the outer two of three trees breaks off. -/
def sampleScore (pair : Pairing) : Verdict :=
  if pair.i = 0 ∧ pair.j = 2 then .error "malformed tree" else scoreOf pair

/-- The second pair breaks off, and the third one is cancelled. -/
def halted : FinishedRun
    (.ofTrees 2 1 sampleScore ((Collection.ofList unsortedEntries).map Prod.snd)) :=
  .ofActions _ false
    [.look 0, .look 1, .claim 0, .claim 1, .compare 1, .send 1, .cancel, .look 1, .compare 0,
      .receive, .send 0, .look 0, .receive] (by decide +kernel)

def haltedBatch : Batch :=
  .assemble ((Collection.ofList unsortedEntries).map Prod.fst) halted.outcome 0

theorem results_halted : halted.outcome.results = [⟨0, 1, 1, similarity 1 2⟩] := by
  decide +kernel

theorem sortedResults_haltedBatch : haltedBatch.sortedResults = haltedBatch.results := by
  refine List.mergeSort_of_pairwise ?_
  rw [show haltedBatch.results = [⟨0, 1, 1, similarity 1 2⟩] from results_halted]
  exact List.pairwise_singleton _ _

theorem digest_haltedBatch : haltedBatch.digest =
    "ec0db84ecbd01e3a0a8ea6d2ad3efe96a2b65c9717635d86cf951c012b333f67" := by
  rw [Batch.digest, Batch.digestBytes, sortedResults_haltedBatch]
  decide +kernel

def haltedRequest (clock : Nat) : SaveRequest :=
  ⟨none, .standard, haltedBatch, clock⟩

/-- The same batch is saved again one millisecond later. -/
theorem saveEach_haltedBatch :
    (Store.empty.saveEach [haltedRequest 0]).1.length = 1 ∧
      ((Store.empty.saveEach [haltedRequest 0]).2.save none .standard haltedBatch 1).isOk =
        true := by
  simp only [haltedRequest, Store.saveEach, Store.save, Store.saveBy, Store.runRow,
    digest_haltedBatch]
  decide +kernel

theorem exists_save_haltedBatch : ∃ (earlier : List SaveRequest) (before after : Site)
    (runId : String), earlier.length = 1 ∧
      (Site.view Site.sampleName).History Site.sampleName earlier before ∧
      saveIn before Site.sampleName none .standard haltedBatch = (.ok runId, after) := by
  obtain ⟨first, history, held⟩ :=
    Site.exists_history Site.ancestors_sampleName [haltedRequest 0]
  obtain ⟨one, taken⟩ := saveEach_haltedBatch
  rw [← held] at taken
  obtain ⟨⟨runId, _⟩, saved⟩ := exists_ok_of_isOk taken
  exact ⟨_, first.atClock 1, _, runId, one, .pass history (.refl _),
    Site.saveIn_sample (first.atClock 1) saved⟩

theorem scored_sampleScore (pair : Pairing) (score : Score) (came : sampleScore pair = .ok score) :
    score = scorePair pair.left pair.right := by
  rw [sampleScore] at came
  split at came
  · cases came
  · cases came
    rfl

theorem saved_batch_is_read_back_sample :
    (Site.view Site.sampleName).IsTransactional Site.sampleName ∧
    (∀ pair score, sampleScore pair = .ok score → score = scorePair pair.left pair.right) ∧
    1 ≤ 2 ∧ (Collection.ofList unsortedEntries).length ≤ 2 ^ 63 ∧
    (∀ result ∈ halted.outcome.results, result.distance < 2 ^ 64) ∧
    ∃ (earlier : List SaveRequest) (before after : Site) (runId : String), earlier.length = 1 ∧
      (Site.view Site.sampleName).History Site.sampleName earlier before ∧
      saveIn before Site.sampleName none .standard haltedBatch = (.ok runId, after) ∧
      (resultsIn after Site.sampleName runId).1 = .ok [⟨"a", "b", 1, similarity 1 2⟩] ∧
      (matrixIn after Site.sampleName runId).1 = .ok (["a", "b", "c"], haltedBatch.similarity) ∧
      haltedBatch.similarity.get? 2 0 = some .zero := by
  have places : (Collection.ofList unsortedEntries).length ≤ 2 ^ 63 := by decide +kernel
  have distances : ∀ result ∈ halted.outcome.results, result.distance < 2 ^ 64 := by
    rw [results_halted]
    decide
  have kept := Site.isTransactional_sampleName
  obtain ⟨earlier, before, after, runId, one, history, saved⟩ := exists_save_haltedBatch
  obtain ⟨ready, ⟨records, listed, back⟩, failures⟩ :=
    saved_batch_is_read_back kept history scored_sampleScore (by decide) halted places distances
      saved
  obtain ⟨loaded, matrix, _⟩ := back after rfl ready
  have same : some records = some [⟨"a", "b", 1, similarity 1 2⟩] := by
    rw [← listed]
    change haltedBatch.sortedResults.mapM (Batch.record? haltedBatch.identifiers) = _
    rw [sortedResults_haltedBatch]
    decide +kernel
  rw [Option.some.inj same] at loaded
  have names : haltedBatch.identifiers = ["a", "b", "c"] := by decide +kernel
  have failed : ⟨0, 2, .panicked, "malformed tree"⟩ ∈ haltedBatch.failures := by decide +kernel
  rw [← names]
  exact ⟨kept, scored_sampleScore, by decide, places, distances, earlier, before, after, runId, one,
    history, saved, loaded, matrix, (failures _ failed).2⟩

end Samples
end Likeness
