import Likeness.Proofs.Store.Access
import Likeness.Proofs.Store.Frame

/-!
# Databases that batches are saved to

Batches are saved to a database one after the other.  Some of them are refused, the clock goes on or
back, and in between anything else may be done that makes missing tables at most, such as reading.
So the database keeps whole runs: each row belongs to a run that is there.

**Main statements.**
* `View.History`: what has been saved to a database.
* `Store.IsSound`, `View.History.isSound`: the tables hold whole runs.
-/

namespace Likeness

/-- A batch that is saved. -/
structure SaveRequest where
  name? : Option String
  params : Params
  batch : Batch
  /-- Milliseconds since the start of 1970. -/
  clock : Nat

namespace View

variable {W : Type} [Host (StateM W)] [Database (StateM W)]

/-- What has been saved to the database of a name since it was new, in the order of the saves. -/
inductive History (view : View W) (name : String) : List SaveRequest → W → Prop
  | new {world : W} (empty : view.held world = .new) : History view name [] world
  /-- Whatever happens, no table has changed; missing ones may have been made. -/
  | pass {saved : List SaveRequest} {world later : W} (before : History view name saved world)
      (made : (view.held world).MadeUpTo (view.held later)) : History view name saved later
  | save {saved : List SaveRequest} {world after : W} (before : History view name saved world)
      (request : SaveRequest) {runId : String} (clock : request.clock = clockIn world name)
      (came : saveIn world name request.name? request.params request.batch =
        (.ok runId, after)) : History view name (saved ++ [request]) after
  | refuse {saved : List SaveRequest} {world after : W} (before : History view name saved world)
      {name? : Option String} {params : Params} {batch : Batch} {fault : StoreFault}
      (came : saveIn world name name? params batch = (.error fault, after)) :
      History view name saved after

end View

namespace Store

/-- A store of whole runs. -/
structure IsSound (store : Store) : Prop where
  standard : store.IsStandard
  whole : ∀ part, (store.table part).isWhole = true
  /-- Each row belongs to a run. -/
  owned : ∀ part, ∀ row ∈ (store.table part).rows,
    ∃ run ∈ store.runs.rows, Table.cell run 0 = Table.cell row 0

theorem isSound_empty : empty.IsSound where
  standard := isStandard_empty
  whole part := by cases part <;> rfl
  owned part row mem := by cases part <;> cases mem

theorem IsSound.save {store kept : Store} {name? : Option String} {params : Params} {batch : Batch}
    {clock : Nat} {runId : String} (sound : store.IsSound)
    (saved : store.save name? params batch clock = .ok (runId, kept)) : kept.IsSound := by
  obtain ⟨records, _, rfl, rfl, _⟩ := save_eq_ok sound.standard saved
  refine ⟨sound.standard.grown _, ?_, ?_⟩
  · intro part
    rw [table_grown]
    exact sound.whole part
  · intro part row mem
    rw [table_grown] at mem
    rcases List.mem_append.1 mem with old | new
    · obtain ⟨run, there, same⟩ := sound.owned part row old
      exact ⟨run, List.mem_append_left _ there, same⟩
    · exact ⟨(runRow name? params batch clock).row, List.mem_append_right _ (.head _),
        (isOf_added part row new).symm⟩

end Store

namespace View

variable {W : Type} [Host (StateM W)] [Database (StateM W)] {view : View W} {name : String}
  {saved : List SaveRequest} {world : W}

/-- What has been saved is all that the tables hold, so each step is one on the tables. -/
theorem History.induction (kept : view.IsTransactional name)
    {P : List SaveRequest → Store → Prop} (history : view.History name saved world)
    (new : P [] .empty)
    (save : ∀ {saved : List SaveRequest} {store store' : Store} {runId : String}
      (request : SaveRequest), P saved store →
      store.save request.name? request.params request.batch request.clock = .ok (runId, store') →
        P (saved ++ [request]) store') :
    P saved (view.held world).store := by
  induction history with
  | new empty =>
      rw [empty]
      exact new
  | pass _ made ih =>
      rw [made.store_eq]
      exact ih
  | save _ request clock came ih =>
      obtain ⟨_, store, taken, held⟩ := kept.save_of_saveIn came
      rw [← clock] at taken
      rw [held, Holdings.store_ofStore]
      exact save request ih taken
  | refuse _ came ih =>
      rw [(kept.madeUpTo_of_saveIn came).store_eq]
      exact ih

theorem History.isSound (kept : view.IsTransactional name)
    (history : view.History name saved world) : (view.held world).store.IsSound :=
  history.induction kept (P := fun _ store => store.IsSound) Store.isSound_empty
    fun _ sound taken => sound.save taken

end View
end Likeness
