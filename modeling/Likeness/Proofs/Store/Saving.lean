import Likeness.Proofs.Store.Frame
import Likeness.Proofs.Store.Memory

/-!
# Saving is all or nothing

A batch that is refused leaves nothing behind, whichever of its rows is the one that is refused.  A
batch that is saved adds the rows of its run and no others, and every other run is listed and read
back as before.

**Main statements.**
* `View.LeavesOthers`, `View.IsTransactional.leavesOthers`: the other runs.
* `saving_is_all_or_nothing`: saving to a database.
-/

namespace Likeness
namespace View

variable {W : Type} [Host (StateM W)] [Database (StateM W)]

/-- Whenever the database holds what it held before or after a run was added, and can be read, all
other runs are listed and read the same. -/
structure LeavesOthers (view : View W) (name : String) (before after : W) (runId : String) :
    Prop where
  results : ∀ early late, view.held early = view.held before → view.held late = view.held after →
    view.IsReady early → view.IsReady late → ∀ other, other ≠ runId →
      (resultsIn late name other).1 = (resultsIn early name other).1
  matrix : ∀ early late, view.held early = view.held before → view.held late = view.held after →
    view.IsReady early → view.IsReady late → ∀ other, other ≠ runId →
      (matrixIn late name other).1 = (matrixIn early name other).1
  listed : ∃ info : RunInfo, info.runId = runId ∧ ∀ early late,
    view.held early = view.held before → view.held late = view.held after →
    view.IsReady early → view.IsReady late →
      Store.OneMore info (listIn early name).1 (listIn late name).1

theorem IsTransactional.leavesOthers {view : View W} {name : String}
    (kept : view.IsTransactional name) {before after : W}
    (standard : (view.held before).store.IsStandard) {store : Store} {name? : Option String}
    {params : Params} {batch : Batch} {clock : Nat} {runId : String}
    (saved : (view.held before).store.save name? params batch clock = .ok (runId, store))
    (held : view.held after = .ofStore store) : view.LeavesOthers name before after runId := by
  have tables {late : W} (same : view.held late = view.held after) :
      (view.held late).store = store := by
    rw [same, held, Holdings.store_ofStore]
  refine ⟨?_, ?_, ?_⟩
  · intro early late first last readyFirst readyLast other apart
    rw [kept.resultsIn_eq readyLast, kept.resultsIn_eq readyFirst, tables last, first,
      Store.results_of_save standard saved apart]
  · intro early late first last readyFirst readyLast other apart
    rw [kept.matrixIn_eq readyLast, kept.matrixIn_eq readyFirst, tables last, first,
      Store.matrix_of_save standard saved apart]
  · obtain ⟨info, named, more⟩ := Store.list_of_save standard saved
    refine ⟨info, named, ?_⟩
    intro early late first last readyFirst readyLast
    rw [kept.listIn_eq readyLast, kept.listIn_eq readyFirst, tables last, first]
    exact more.mapError _

end View

/-- A batch that cannot be saved, for whatever reason, leaves all tables as they were before; at
most those that were missing have been made.  A batch that is saved leaves what adding all of its
rows comes to; where nobody else has made the tables, these are one more run and nothing else, and
all other runs are listed and read as before. -/
theorem saving_is_all_or_nothing {W : Type} [Host (StateM W)] [Database (StateM W)]
    {view : View W} {name : String} (kept : view.IsTransactional name) (name? : Option String)
    (params : Params) (batch : Batch) (before : W) :
    (∀ fault after, saveIn before name name? params batch = (.error fault, after) →
      (view.held before).MadeUpTo (view.held after)) ∧
    ∀ runId after, saveIn before name name? params batch = (.ok runId, after) →
      ∃ store, view.held after = .ofStore store ∧
        (view.held before).store.save name? params batch (clockIn before name) =
          .ok (runId, store) ∧
        ((view.held before).IsStandard →
          (view.held before).store.AddsRun store name? params batch (clockIn before name) runId ∧
            view.LeavesOthers name before after runId) := by
  refine ⟨fun fault after failed => kept.madeUpTo_of_saveIn failed, ?_⟩
  intro runId after saved
  obtain ⟨-, store, taken, held⟩ := kept.save_of_saveIn saved
  refine ⟨store, held, taken, ?_⟩
  intro standard
  exact ⟨Store.addsRun_of_save standard.definition_eq taken,
    kept.leavesOthers standard.definition_eq taken held⟩

section Samples

def samplePair : PairResult := ⟨0, 1, 1, .zero⟩

/-- Two trees with some results. -/
def sampleBatch (results : List PairResult) : Batch :=
  .assemble ["a", "b"] ⟨1, 1, results, [], similarityMatrix 2, default, [.finished 1 0]⟩ 0

theorem digest_sampleBatch {results : List PairResult}
    (sorted : results.Pairwise (fun a b => a.notAfter b = true)) :
    (sampleBatch results).digest =
      Blake3.hex (["a", "b"].flatMap identifierBytes ++ results.flatMap PairResult.bytes) := by
  have same : (sampleBatch results).sortedResults = results := List.mergeSort_of_pairwise sorted
  rw [Batch.digest, Batch.digestBytes, same]
  rfl

/-- A pair that is there twice is refused. -/
theorem isOk_save_doubled_sample :
    (Store.empty.save none .standard (sampleBatch [samplePair, samplePair]) 0).isOk = false := by
  rw [Store.save, Store.saveBy, Store.runRow, digest_sampleBatch (by decide)]
  decide +kernel

theorem isOk_save_sample :
    (Store.empty.save none .standard (sampleBatch [samplePair]) 0).isOk = true := by
  rw [Store.save, Store.saveBy, Store.runRow, digest_sampleBatch (by decide)]
  decide +kernel

theorem saving_is_all_or_nothing_sample :
    let new := Site.start 0
    let view := Site.view Site.sampleName
    view.IsTransactional Site.sampleName ∧
    (∃ fault after,
      saveIn new Site.sampleName none .standard (sampleBatch [samplePair, samplePair]) =
        (.error fault, after) ∧ (view.held new).MadeUpTo (view.held after)) ∧
    (view.held new).IsStandard ∧ ∃ runId after store,
      saveIn new Site.sampleName none .standard (sampleBatch [samplePair]) = (.ok runId, after) ∧
      view.held after = .ofStore store ∧
      Store.empty.AddsRun store none .standard (sampleBatch [samplePair])
        (clockIn new Site.sampleName) runId ∧
      view.LeavesOthers Site.sampleName new after runId := by
  intro new view
  have kept := Site.isTransactional_sampleName
  have standard : (view.held new).IsStandard := nofun
  refine ⟨kept, ?_, standard, ?_⟩
  · obtain ⟨fault, refused⟩ := exists_error_of_isOk isOk_save_doubled_sample
    have failed := Site.saveIn_refused_sample new refused
    exact ⟨fault, _, failed, (saving_is_all_or_nothing kept none .standard
      (sampleBatch [samplePair, samplePair]) new).1 _ _ failed⟩
  · obtain ⟨⟨runId, _⟩, taken⟩ := exists_ok_of_isOk isOk_save_sample
    have saved := Site.saveIn_sample new taken
    obtain ⟨store, held, _, adds⟩ := (saving_is_all_or_nothing kept none .standard
      (sampleBatch [samplePair]) new).2 _ _ saved
    exact ⟨runId, _, store, saved, held, adds standard⟩

end Samples
end Likeness
