import Likeness.Proofs.Answer
import Likeness.Proofs.Store.Transactional

/-!
# Opening, saving and reading through an engine

Each of the things that are done with a store is taken apart into the steps that an engine does.
Opening makes the tables that are missing.  Saving comes to the same as adding the rows to the tables
that are held, or to nothing at all; and reading comes to what these tables answer.

**Main statements.**
* `View.IsTransactional.ends_access`: opening.
* `View.IsTransactional.madeUpTo_of_saveIn`, `save_of_saveIn`: saving.
* `View.IsTransactional.listIn_eq`, `resultsIn_eq`, `matrixIn_eq`: reading.
-/

namespace Likeness

section Worlds

variable {W : Type} [Host (StateM W)] [Database (StateM W)]

def saveIn (world : W) (name : String) (runName? : Option String) (params : Params)
    (batch : Batch) : Except StoreFault String × W :=
  (Store.saveRun name runName? params batch : StateM W _).run world

def listIn (world : W) (name : String) : Except StoreFault (List RunInfo) × W :=
  (Store.listRuns name : StateM W _).run world

/-- Reading the records of a run in a world. -/
def resultsIn (world : W) (name runId : String) : Except StoreFault (List Record) × W :=
  (Store.loadResults name runId : StateM W _).run world

def matrixIn (world : W) (name runId : String) :
    Except StoreFault (List String × SymmetricMatrix Binary64) × W :=
  (Store.loadMatrix name runId : StateM W _).run world

/-- What the clock says when a batch is saved: it is looked at once the store is open. -/
def clockIn (world : W) (name : String) : Nat :=
  let opening := ((Store.access name : Opening (StateM W) _).run.run world).2
  ((Host.clock : StateM W Nat).run opening).1

end Worlds

section Doing

variable {W α β γ δ : Type}

/-- An action does what a step does that needs no world, and nothing else. -/
def Does (world : W) (action : Opening (StateM W) α) (step : Except StoreFault β) (f : β → α) :
    Prop :=
  action.run.run world = (step.map f, world)

theorem Does.bind {world : W} {action : Opening (StateM W) α} {step : Except StoreFault β}
    {f : β → α} {next : α → Opening (StateM W) γ} {steps : β → Except StoreFault δ} {g : δ → γ}
    (does : Does world action step f) (rest : ∀ b, Does world (next (f b)) (steps b) g) :
    Does world (action >>= next) (step >>= steps) g := by
  rw [Does, ExceptT.run_bind, StateT.run_bind, does]
  cases step with
  | error fault => rfl
  | ok b => exact rest b

variable {σ τ : Type} {world : W} {prepare : σ → Part → List String → Opening (StateM W) Unit}
  {insert : σ → Part → List (String × Cell) → Opening (StateM W) σ}
  {prepare' : τ → Part → List String → Except StoreFault Unit}
  {insert' : τ → Part → List (String × Cell) → Except StoreFault τ} {f : τ → σ}
  (prepares : ∀ state part keys, Does world (prepare (f state) part keys)
    (prepare' state part keys) id)
  (inserts : ∀ state part given, Does world (insert (f state) part given)
    (insert' state part given) f)

include inserts in
theorem does_insertRowsBy (state : τ) (part : Part) (rows : List (List (String × Cell))) :
    Does world (Store.insertRowsBy insert (f state) part rows)
      (Store.insertRowsBy insert' state part rows) f := by
  induction rows generalizing state with
  | nil => rfl
  | cons row rows ih =>
      rw [Store.insertRowsBy, Store.insertRowsBy, List.foldlM_cons, List.foldlM_cons]
      exact (inserts state part row).bind ih

include prepares inserts

theorem does_insertAllBy (state : τ) (part : Part) (rows : List (List (String × Cell))) :
    Does world (Store.insertAllBy prepare insert (f state) part rows)
      (Store.insertAllBy prepare' insert' state part rows) f :=
  (prepares state part part.columns).bind fun _ => does_insertRowsBy inserts state part rows

/-- Where no statement of a transaction needs the world, adding all rows of a batch does not. -/
theorem does_saveBy (state : τ) (name? : Option String) (params : Params) (batch : Batch)
    (clock : Nat) :
    Does world (Store.saveBy prepare insert (f state) name? params batch clock)
      (Store.saveBy prepare' insert' state name? params batch clock)
      (fun saved => (saved.1, f saved.2)) := by
  refine (does_insertAllBy prepares inserts state .runs _).bind fun state => ?_
  refine (does_insertAllBy prepares inserts state .files _).bind fun state => ?_
  refine (prepares state .pairs _).bind fun _ => ?_
  cases batch.records? with
  | none => rfl
  | some records =>
      refine (does_insertRowsBy inserts state .pairs _).bind fun state => ?_
      rfl

end Doing

namespace View

section Following

variable {W α β γ δ : Type} [Database (StateM W)] {view : View W}

/-- An action within a transaction comes to something only if a step on the tables does; what the
database holds stays as it is. -/
def Follows (view : View W) (world : W) (action : Opening (StateM W) α)
    (step : Except StoreFault β) (sees : W → α → β → Prop) : Prop :=
  Ends action world (fun answer after =>
    view.held after = view.held world ∧
      ∀ a, answer = .ok a → ∃ b, step = .ok b ∧ sees after a b)

variable {world : W} {action : Opening (StateM W) α} {step : Except StoreFault β}
  {sees : W → α → β → Prop}

theorem Follows.bind {next : α → Opening (StateM W) γ} {steps : β → Except StoreFault δ}
    {sees' : W → γ → δ → Prop} (follows : view.Follows world action step sees)
    (rest : ∀ after a b, sees after a b → view.Follows after (next a) (steps b) sees') :
    view.Follows world (action >>= next) (step >>= steps) sees' := by
  refine Ends.bind (follows.imp ?_)
  rintro (fault | a) after - ⟨held, done⟩
  · exact ⟨held, nofun⟩
  · obtain ⟨b, rfl, seen⟩ := done a rfl
    refine (rest after a b seen).imp ?_
    rintro answer last - ⟨held', done'⟩
    exact ⟨held'.trans held, done'⟩

theorem follows_pure {a : α} {b : β} (seen : sees world a b) :
    view.Follows world (pure a) (pure b) sees := by
  refine ⟨rfl, ?_⟩
  intro a' same
  cases same
  exact ⟨b, rfl, seen⟩

theorem follows_throw (fault : StoreFault) (step : Except StoreFault β) :
    view.Follows world (throw fault : Opening (StateM W) α) step sees :=
  ⟨rfl, nofun⟩

end Following

section Answering

variable {W α β : Type} [Database (StateM W)] {view : View W}

/-- What is read comes to what the tables say, as far as nothing is in the way, and changes
nothing. -/
def Answers (view : View W) (world : W) (action : Opening (StateM W) α)
    (value : Except QuestionFault α) : Prop :=
  Ends action world (fun answer after =>
    view.held after = view.held world ∧
      (view.IsReady world → answer = value.mapError .asked ∧ view.IsReady after))

/-- A store is opened, and what is read comes to what its tables say, as far as nothing is in the
way; at most tables that were missing are made. -/
def Reads (view : View W) (world : W) (action : Opening (StateM W) α)
    (value : Store → Except QuestionFault α) : Prop :=
  Ends action world (fun answer after =>
    (view.held world).MadeUpTo (view.held after) ∧
    (view.IsReady world → answer = (value (view.held world).store).mapError .asked ∧
      view.held after = .ofStore (view.held world).store ∧ view.IsReady after))

variable {world : W} {action : Opening (StateM W) α} {value : Except QuestionFault α}

/-- Two questions in a row.  What else holds after the first one can be used for the second. -/
theorem Answers.bind {next : α → Opening (StateM W) β} {values : α → Except QuestionFault β}
    {P : W → Prop} (answers : view.Answers world action value)
    (beside : Ends action world (fun _ after => P after))
    (rest : ∀ after a, view.held after = view.held world → P after →
      view.Answers after (next a) (values a)) :
    view.Answers world (action >>= next) (value >>= values) := by
  refine Ends.bind ((answers.and beside).imp ?_)
  rintro (fault | a) after - ⟨⟨held, came⟩, there⟩
  · refine ⟨held, ?_⟩
    intro ready
    obtain ⟨same, ready'⟩ := came ready
    cases value with
    | error fault' =>
        cases same
        exact ⟨rfl, ready'⟩
    | ok _ => cases same
  · refine (rest after a held there).imp ?_
    rintro answer last - ⟨held', came'⟩
    refine ⟨held'.trans held, ?_⟩
    intro ready
    obtain ⟨same, ready'⟩ := came ready
    rw [mapError_eq_ok same.symm]
    exact came' ready'

theorem answers_pure (a : α) : view.Answers world (pure a) (pure a) :=
  ⟨rfl, fun ready => ⟨rfl, ready⟩⟩

/-- What is read off an answer is not asked of anybody. -/
theorem answers_read (value : Except QuestionFault α) :
    view.Answers world
      (match value with
        | .error fault => throw (.asked fault)
        | .ok a => pure a) value := by
  cases value <;> exact ⟨rfl, fun ready => ⟨rfl, ready⟩⟩

end Answering

end View

namespace View.HoldsBack

variable {W : Type} [Database (StateM W)] {view : View W} (back : view.HoldsBack) {store : Store}
  {world : W} {transaction : Database.Transaction (StateM W)}
include back

theorem follows_prepare (sees : view.Sees world transaction store) (part : Part)
    (keys : List String) :
    view.Follows world (Database.prepare transaction part keys) (store.admitRows part keys)
      (fun after _ _ => view.Sees after transaction store) := by
  refine (back.prepare world transaction store part keys sees).imp ?_
  rintro answer after - ⟨held, done⟩
  refine ⟨held, ?_⟩
  rintro ⟨⟩ rfl
  obtain ⟨admitted, seen⟩ := done rfl
  exact ⟨(), by rw [Store.admitRows, admitted]; rfl, seen⟩

theorem follows_insert (sees : view.Sees world transaction store) (part : Part)
    (given : List (String × Cell)) :
    view.Follows world (Database.insert transaction part given) (store.insertRow part given)
      view.Sees := by
  refine (back.insert world transaction store part given sees).imp ?_
  rintro answer after - ⟨held, done⟩
  refine ⟨held, ?_⟩
  rintro transaction' rfl
  obtain ⟨store', inserted, seen⟩ := done transaction' rfl
  exact ⟨store', by rw [Store.insertRow, inserted]; rfl, seen⟩

theorem follows_insertRows (sees : view.Sees world transaction store) (part : Part)
    (rows : List (List (String × Cell))) :
    view.Follows world (Store.insertRowsBy Database.insert transaction part rows)
      (Store.insertRowsBy Store.insertRow store part rows) view.Sees := by
  induction rows generalizing world transaction store with
  | nil => exact follows_pure sees
  | cons row rows ih =>
      rw [Store.insertRowsBy, Store.insertRowsBy, List.foldlM_cons, List.foldlM_cons]
      exact (back.follows_insert sees part row).bind fun _ _ _ seen => ih seen

theorem follows_insertAll (sees : view.Sees world transaction store) (part : Part)
    (rows : List (List (String × Cell))) :
    view.Follows world (Store.insertAllBy Database.prepare Database.insert transaction part rows)
      (Store.insertAllBy Store.admitRows Store.insertRow store part rows) view.Sees :=
  (back.follows_prepare sees part part.columns).bind fun _ _ _ seen =>
    back.follows_insertRows seen part rows

/-- All rows of a batch are added within a transaction only if the tables take them. -/
theorem follows_save (sees : view.Sees world transaction store) (name? : Option String)
    (params : Params) (batch : Batch) (clock : Nat) :
    view.Follows world
      (Store.saveBy Database.prepare Database.insert transaction name? params batch clock)
      (store.save name? params batch clock)
      (fun after a b => a.1 = b.1 ∧ view.Sees after a.2 b.2) := by
  refine (back.follows_insertAll sees .runs _).bind fun _ _ _ seen => ?_
  refine (back.follows_insertAll seen .files _).bind fun _ _ _ seen => ?_
  refine (back.follows_prepare seen .pairs _).bind fun _ _ _ seen => ?_
  cases batch.records? with
  | none => exact follows_throw _ _
  | some records =>
      exact (back.follows_insertRows seen .pairs _).bind fun _ _ _ seen =>
        follows_pure ⟨rfl, seen⟩

end View.HoldsBack

namespace View.IsTransactional

variable {W : Type} [Host (StateM W)] [Database (StateM W)] {view : View W} {name : String}
  (kept : view.IsTransactional name)
include kept

section Opening

theorem leaves_settleDirectory (path : String) : view.Leaves (Host.settleDirectory path) := by
  refine (kept.makeDirectory path).bind ?_
  rintro (fault | done)
  · exact (kept.isDirectory path).bind fun _ => view.leaves_pure _
  · exact view.leaves_pure _

theorem leaves_makeDirectories (paths : List String) :
    view.Leaves (Host.makeDirectories paths) := by
  induction paths with
  | nil => exact view.leaves_pure _
  | cons path above ih =>
      refine (kept.leaves_settleDirectory path).bind ?_
      intro answer
      split
      · -- the directory that it lies in has to be made first
        refine ih.bind ?_
        rintro (fault | done)
        · exact view.leaves_pure _
        · exact kept.leaves_settleDirectory path
      · exact view.leaves_pure _

/-- Tables of some parts are made one after the other. -/
theorem ends_createAll (parts : List Part) (world : W)
    (connection : Database.Connection (StateM W)) (opened : view.IsOpen world connection) :
    Ends (parts.foldlM Database.create connection) world (fun answer after =>
      (view.held world).MadeUpTo (view.held after) ∧
      (∀ connection', answer = .ok connection' →
        view.IsOpen after connection' ∧ view.held after = parts.foldl .make (view.held world)) ∧
      (view.IsReady world → (∃ connection', answer = .ok connection') ∧ view.IsReady after)) := by
  induction parts generalizing world connection with
  | nil =>
      refine ⟨.refl _, ?_, fun ready => ⟨⟨_, rfl⟩, ready⟩⟩
      intro connection' same
      cases same
      exact ⟨opened, rfl⟩
  | cons part parts ih =>
      rw [List.foldlM_cons]
      refine Ends.bind ((kept.create world connection part opened).imp ?_)
      rintro (fault | connection') after - ⟨refused, made, ready⟩
      · exact ⟨.of_eq (refused fault rfl), nofun,
          fun isReady => (not_of_refused ready isReady).elim⟩
      · obtain ⟨opened', held⟩ := made connection' rfl
        refine (ih after connection' opened').imp ?_
        rintro answer last - ⟨grown, rest, ready'⟩
        rw [held] at grown rest
        exact ⟨(Holdings.MadeUpTo.make _ part).trans grown, rest,
          fun isReady => ready' (ready isReady).2⟩

/-- Opening makes the tables that are missing, or some of them, and nothing else. -/
theorem ends_access (world : W) :
    Ends (Store.access name) world (fun answer after =>
      (view.held world).MadeUpTo (view.held after) ∧
      (∀ connection, answer = .ok connection →
        view.IsOpen after connection ∧ view.held after = .ofStore (view.held world).store) ∧
      (view.IsReady world → (∃ connection, answer = .ok connection) ∧ view.IsReady after)) := by
  have parent := kept.leaves_makeDirectories (Path.ancestors name) world
  have readyParent := kept.makeParent world
  refine ends_lift_bind ?_
  rw [Host.makeParent] at readyParent ⊢
  rcases ran : (Host.makeDirectories (Path.ancestors name) : StateM W _).run world with
    ⟨answer, first⟩
  rw [ran] at parent readyParent
  cases answer with
  | error fault =>
      refine ⟨.of_eq parent, nofun, ?_⟩
      intro isReady
      obtain ⟨absurd, _⟩ := readyParent isReady
      cases absurd
  | ok done =>
      refine Ends.bind ((kept.connect first).imp ?_)
      rintro (fault | connection) second - ⟨held, opened, ready⟩
      · exact ⟨.of_eq (held.trans parent), nofun,
          fun isReady => (not_of_refused ready (readyParent isReady).2).elim⟩
      · refine (kept.ends_createAll Part.all second connection (opened connection rfl)).imp ?_
        rintro answer last - ⟨grown, made, ready'⟩
        rw [held, parent] at grown made
        rw [Holdings.make_all] at made
        exact ⟨grown, made, fun isReady => ready' (ready (readyParent isReady).2).2⟩

end Opening

section Saving

/-- A batch is saved as the tables take it; if it is not, at most tables that were missing have
been made. -/
theorem ends_saveRun (before : W) (name? : Option String) (params : Params) (batch : Batch) :
    Ends (ExceptT.mk (Store.saveRun name name? params batch)) before (fun answer after =>
      (∀ fault, answer = .error fault → (view.held before).MadeUpTo (view.held after)) ∧
      ∀ runId, answer = .ok runId → view.IsReady after ∧ ∃ store,
        (view.held before).store.save name? params batch (clockIn before name) =
          .ok (runId, store) ∧ view.held after = .ofStore store) := by
  refine Ends.bind ((kept.ends_access before).imp ?_)
  rintro (fault | connection) opening accessed ⟨grown, opened, -⟩
  · exact ⟨fun _ _ => grown, nofun⟩
  obtain ⟨isOpen, held⟩ := opened connection rfl
  have clock : clockIn before name = ((Host.clock : StateM W Nat).run opening).1 := by
    rw [clockIn, accessed]
  have looked := kept.clock opening
  have isOpen := kept.clock_isOpen opening connection isOpen
  refine ends_lift_bind ?_
  rw [← clock]
  generalize ((Host.clock : StateM W Nat).run opening).2 = second at looked isOpen ⊢
  rw [held] at looked
  have grown : (view.held before).MadeUpTo (.ofStore (view.held before).store) := held ▸ grown
  refine Ends.bind ((kept.transact second connection _ isOpen looked).imp ?_)
  rintro (fault | transaction) third - ⟨begun, sees⟩
  · exact ⟨fun _ _ => by rwa [begun, looked], nofun⟩
  have follows := kept.toHoldsBack.follows_save (sees transaction rfl) name? params batch
  refine Ends.bind ((follows _).imp ?_)
  rintro (fault | ⟨runId, transaction'⟩) fourth - ⟨untouched, done⟩
  · exact ⟨fun _ _ => by rwa [untouched, begun, looked], nofun⟩
  obtain ⟨⟨_, store⟩, saved, rfl, seen⟩ := done _ rfl
  refine Ends.bind ((kept.commit fourth transaction' store seen).imp ?_)
  rintro (fault | done) last - ⟨rolledBack, committed⟩
  · refine ⟨fun _ _ => ?_, nofun⟩
    rwa [rolledBack fault rfl, untouched, begun, looked]
  · obtain ⟨held', ready⟩ := committed rfl
    refine ⟨nofun, ?_⟩
    intro runId' same
    cases same
    exact ⟨ready, store, saved, held'⟩

variable {before after : W} {name? : Option String} {params : Params} {batch : Batch}

theorem madeUpTo_of_saveIn {fault : StoreFault}
    (failed : saveIn before name name? params batch = (.error fault, after)) :
    (view.held before).MadeUpTo (view.held after) :=
  ((kept.ends_saveRun before name? params batch).elim failed).1 fault rfl

theorem save_of_saveIn {runId : String}
    (saved : saveIn before name name? params batch = (.ok runId, after)) :
    view.IsReady after ∧ ∃ store,
      (view.held before).store.save name? params batch (clockIn before name) = .ok (runId, store) ∧
        view.held after = .ofStore store :=
  ((kept.ends_saveRun before name? params batch).elim saved).2 runId rfl

end Saving

section Reading

variable {α : Type} {store : Store} {world : W} {connection : Database.Connection (StateM W)}
  (isOpen : view.IsOpen world connection) (held : view.held world = .ofStore store)
include isOpen held

theorem answers_ask (query : Query) (read : Answer → Except QuestionFault α) :
    view.Answers world (Store.ask connection query read) (store.answer query >>= read) := by
  have selected := kept.select world connection store query isOpen held
  have answers : view.Answers world (Database.select connection query) (store.answer query) :=
    ⟨selected.1, selected.2.2⟩
  exact answers.bind (P := fun _ => True) trivial fun after answer _ _ =>
    answers_read (read answer)

theorem isOpen_ask (query : Query) (read : Answer → Except QuestionFault α) :
    Ends (Store.ask connection query read) world (fun _ after =>
      view.IsOpen after connection) := by
  refine Ends.bind ((kept.select world connection store query isOpen held).imp ?_)
  rintro (fault | answer) after - ⟨-, isOpen', -⟩
  · exact isOpen'
  · dsimp only
    generalize read answer = value
    cases value <;> exact isOpen'

omit isOpen held

/-- A store that is opened and then read. -/
theorem reads_access {action : Database.Connection (StateM W) → Opening (StateM W) α}
    {value : Store → Except QuestionFault α}
    (reads : ∀ opening connection store, view.IsOpen opening connection →
      view.held opening = .ofStore store →
        view.Answers opening (action connection) (value store)) (world : W) :
    view.Reads world (Store.access name >>= action) value := by
  refine Ends.bind ((kept.ends_access world).imp ?_)
  rintro (fault | connection) opening - ⟨grown, opened, ready⟩
  · exact ⟨grown, fun isReady => (not_of_refused ready isReady).elim⟩
  · obtain ⟨isOpen, held⟩ := opened connection rfl
    refine (reads opening connection _ isOpen held).imp ?_
    rintro answer after - ⟨unchanged, came⟩
    refine ⟨unchanged ▸ grown, ?_⟩
    intro isReady
    obtain ⟨same, ready'⟩ := came (ready isReady).2
    exact ⟨same, unchanged.trans held, ready'⟩

theorem answers_results (isOpen : view.IsOpen world connection)
    (held : view.held world = .ofStore store) (runId : String) :
    view.Answers world
      (Store.ask connection (.run runId) (Store.demand runId) >>= fun _ =>
        Store.ask connection (.results runId) Store.readRecords)
      (store.results runId) := by
  refine (kept.answers_ask isOpen held (.run runId) _).bind (kept.isOpen_ask isOpen held _ _) ?_
  intro after _ unchanged isOpen'
  exact kept.answers_ask isOpen' (unchanged.trans held) (.results runId) _

theorem reads_listRuns (world : W) :
    view.Reads world (ExceptT.mk (Store.listRuns name)) Store.list :=
  kept.reads_access (fun _ _ _ isOpen held => kept.answers_ask isOpen held .runs _) world

theorem reads_loadResults (world : W) (runId : String) :
    view.Reads world (ExceptT.mk (Store.loadResults name runId))
      (fun store => store.results runId) :=
  kept.reads_access (fun _ _ _ isOpen held => kept.answers_results isOpen held runId) world

theorem answers_matrix (isOpen : view.IsOpen world connection)
    (held : view.held world = .ofStore store) (runId : String) :
    view.Answers world
      (Store.ask connection (.run runId) (Store.demand runId) >>= fun _ =>
        Store.ask connection (.files runId) Store.readFiles >>= fun identifiers =>
          ExceptT.mk (Store.loadResults name runId) >>= fun records =>
            pure (identifiers, Store.matrixOf identifiers records))
      (store.matrix runId) := by
  refine (kept.answers_ask isOpen held (.run runId) _).bind (kept.isOpen_ask isOpen held _ _) ?_
  intro second _ unchanged isOpen
  have held := unchanged.trans held
  refine (kept.answers_ask isOpen held (.files runId) _).bind (P := fun _ => True) trivial ?_
  intro third identifiers unchanged _
  have held := unchanged.trans held
  -- the records are read through another connection, which finds the same tables
  have loaded : view.Answers third (ExceptT.mk (Store.loadResults name runId))
      (store.results runId) := by
    refine (kept.reads_loadResults third runId).imp ?_
    rintro answer last - ⟨grown, came⟩
    rw [held] at grown came ⊢
    exact ⟨grown.eq_ofStore, fun ready => ⟨(came ready).1, (came ready).2.2⟩⟩
  exact loaded.bind (P := fun _ => True) trivial fun _ records _ _ =>
    answers_pure (identifiers, Store.matrixOf identifiers records)

theorem reads_loadMatrix (world : W) (runId : String) :
    view.Reads world (ExceptT.mk (Store.loadMatrix name runId))
      (fun store => store.matrix runId) :=
  kept.reads_access (fun _ _ _ isOpen held => kept.answers_matrix isOpen held runId) world

variable (ready : view.IsReady world)
include ready

/-- The runs are listed as the tables say. -/
theorem listIn_eq : (listIn world name).1 = (view.held world).store.list.mapError .asked :=
  ((kept.reads_listRuns world).2 ready).1

/-- The records of a run are read as the tables say. -/
theorem resultsIn_eq (runId : String) :
    (resultsIn world name runId).1 =
      ((view.held world).store.results runId).mapError .asked :=
  ((kept.reads_loadResults world runId).2 ready).1

/-- The matrix of a run is read as the tables say. -/
theorem matrixIn_eq (runId : String) :
    (matrixIn world name runId).1 = ((view.held world).store.matrix runId).mapError .asked :=
  ((kept.reads_loadMatrix world runId).2 ready).1

end Reading

end View.IsTransactional

end Likeness
