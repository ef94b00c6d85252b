import Likeness.Files.Session
import Likeness.Proofs.Store.History
import Mathlib.Logic.Function.Basic

/-!
# Databases in memory

An engine that keeps the tables of databases as they are, beside a session.  Nothing goes wrong
with it except that a table does not take a row, so that it shows what the documentation of SQLite
leaves when files are set aside.

**Main statements.**
* `Site.isTransactional`: the engine does what is asked of one.
* `Site.saveIn_eq`: saving comes to what the tables take.
* `Site.exists_history`: any batches, saved one after the other.
-/

namespace Likeness

/-- A session with databases beside it. -/
structure Site where
  session : Session
  databases : String → Holdings

namespace Site

/-- A site without databases, at a given time. -/
def start (clock : Nat) : Site :=
  ⟨.start .empty "/" clock, fun _ => .new⟩

/-- A site in which the database of a name holds something else. -/
def update (site : Site) (name : String) (holdings : Holdings) : Site :=
  { site with databases := Function.update site.databases name holdings }

/-- The same site at another time. -/
def atClock (site : Site) (clock : Nat) : Site :=
  { site with session := { site.session with clock } }

/-- What is done in the session. -/
def inSession {α : Type} (action : StateM Session α) : StateM Site α := do
  let site ← get
  let (answer, session) := action.run site.session
  set { site with session }
  return answer

instance : Host (StateM Site) where
  read path := inSession (Host.read path)
  write path content := inSession (Host.write path content)
  entries path := inSession (Host.entries path)
  makeDirectory path := inSession (Host.makeDirectory path)
  remove path := inSession (Host.remove path)
  linkTarget? path := inSession (Host.linkTarget? path)
  workingDirectory := inSession Host.workingDirectory
  isDirectory path := inSession (Host.isDirectory path)
  clock := inSession Host.clock
  room := inSession Host.room
  timed times work := inSession (Host.timed times work)
  say text := inSession (Host.say text)
  complain text := inSession (Host.complain text)

instance : Database (StateM Site) where
  Connection := String
  Transaction := String × Store
  connect name := return name
  create name part := do
    modify (fun site => site.update name ((site.databases name).make part))
    return name
  transact name := return (name, ((← get).databases name).store)
  prepare transaction part keys := ExceptT.mk (return transaction.2.admitRows part keys)
  insert transaction part given :=
    ExceptT.mk (return (transaction.2.insertRow part given).map (transaction.1, ·))
  commit transaction := modify (fun site => site.update transaction.1 (.ofStore transaction.2))
  select name query := do
    ExceptT.mk (return (((← get).databases name).store.answer query).mapError .asked)

/-- A database in memory shows what it holds. -/
def view (name : String) : View Site where
  held site := site.databases name
  IsOpen _ connection := connection = name
  Sees _ transaction store := transaction = (name, store)
  IsReady _ := True

@[simp] theorem databases_update_self (site : Site) (name : String) (holdings : Holdings) :
    (site.update name holdings).databases name = holdings := by
  simp [update]

@[simp] theorem update_update (site : Site) (name : String) (first second : Holdings) :
    (site.update name first).update name second = site.update name second := by
  rw [update, update, Function.update_idem, update]

theorem leaves_inSession {α : Type} (name : String) (action : StateM Session α) :
    (view name).Leaves (inSession action) :=
  fun _ => rfl

/-- Databases in memory are transactional.  The directory of the name is taken to be there. -/
theorem isTransactional {name : String} (near : Path.ancestors name = []) :
    (view name).IsTransactional name where
  makeDirectory path := leaves_inSession name _
  isDirectory path := leaves_inSession name _
  makeParent site _ := by
    rw [Host.makeParent, near]
    exact ⟨rfl, trivial⟩
  clock := leaves_inSession name _
  clock_isOpen _ _ isOpen := isOpen
  connect site := ⟨rfl, fun _ same => (Except.ok.inj same).symm, fun _ => ⟨⟨_, rfl⟩, trivial⟩⟩
  create site connection part isOpen := by
    obtain rfl : connection = name := isOpen
    refine ⟨?_, ?_, fun _ => ⟨⟨_, rfl⟩, trivial⟩⟩
    · intro fault absurd
      cases absurd
    · intro connection' same
      exact ⟨(Except.ok.inj same).symm, databases_update_self site connection _⟩
  transact site connection store isOpen held := by
    obtain rfl : connection = name := isOpen
    refine ⟨rfl, ?_⟩
    intro transaction same
    have held : site.databases connection = .ofStore store := held
    refine (Except.ok.inj same).symm.trans ?_
    rw [held]
    rfl
  prepare site transaction store part keys sees := by
    obtain rfl : transaction = (name, store) := sees
    exact ⟨rfl, fun admitted => ⟨mapError_eq_ok admitted, rfl⟩⟩
  insert site transaction store part given sees := by
    obtain rfl : transaction = (name, store) := sees
    refine ⟨rfl, ?_⟩
    intro transaction' inserted
    obtain ⟨store', taken, rfl⟩ := map_eq_ok inserted
    exact ⟨store', mapError_eq_ok taken, rfl⟩
  commit site transaction store sees := by
    obtain rfl : transaction = (name, store) := sees
    refine ⟨?_, fun _ => ⟨databases_update_self site name _, trivial⟩⟩
    intro fault absurd
    cases absurd
  select site connection store query isOpen held := by
    obtain rfl : connection = name := isOpen
    have held : site.databases connection = .ofStore store := held
    refine ⟨rfl, rfl, fun _ => ⟨?_, trivial⟩⟩
    change ((site.databases connection).store.answer query).mapError _ = _
    rw [held]
    rfl

section Saving

variable (site : Site) (name : String)

theorem does_save (store : Store) (name? : Option String) (params : Params) (batch : Batch)
    (clock : Nat) :
    Does site
      (Store.saveBy Database.prepare Database.insert ((name, store) : String × Store) name? params
        batch clock)
      (store.save name? params batch clock) (fun saved => (saved.1, name, saved.2)) := by
  have prepares (store : Store) (part : Part) (keys : List String) :
      Does site (Database.prepare ((name, store) : String × Store) part keys)
        (store.admitRows part keys) id := by
    rw [Does, Except.map_id]
    rfl
  have inserts (store : Store) (part : Part) (given : List (String × Cell)) :
      Does site (Database.insert ((name, store) : String × Store) part given)
        (store.insertRow part given) (name, ·) := rfl
  exact does_saveBy prepares inserts store name? params batch clock

/-- What is held after some tables have been made. -/
theorem run_createAll (parts : List Part) :
    (parts.foldlM (Database.create (m := StateM Site)) name).run.run site =
      (.ok name, site.update name (parts.foldl .make (site.databases name))) := by
  induction parts generalizing site with
  | nil =>
      rw [List.foldl_nil, update, Function.update_eq_self]
      rfl
  | cons part parts ih =>
      rw [List.foldlM_cons]
      refine (ih (site.update name ((site.databases name).make part))).trans ?_
      rw [databases_update_self, update_update]
      rfl

/-- Opening makes the tables that are missing. -/
theorem run_access {name : String} (near : Path.ancestors name = []) (site : Site) :
    (Store.access name : Opening (StateM Site) String).run.run site =
      (.ok name, site.update name (.ofStore (site.databases name).store)) := by
  rw [Store.access, Host.makeParent, near]
  refine (run_createAll site name Part.all).trans ?_
  rw [Holdings.make_all]

/-- A batch is saved if the tables take it. -/
theorem saveIn_eq {name : String} (near : Path.ancestors name = []) (site : Site)
    (name? : Option String) (params : Params) (batch : Batch) :
    saveIn site name name? params batch =
      match (site.databases name).store.save name? params batch site.session.clock with
      | .error fault =>
          (.error fault, site.update name (.ofStore (site.databases name).store))
      | .ok (runId, kept) => (.ok runId, site.update name (.ofStore kept)) := by
  let opening := site.update name (.ofStore (site.databases name).store)
  have held : (opening.databases name).store = (site.databases name).store := by
    rw [databases_update_self, Holdings.store_ofStore]
  have clock : (ExceptT.lift Host.clock : Opening (StateM Site) Nat).run.run opening =
      (.ok site.session.clock, opening) := rfl
  have begun : (Database.transact (m := StateM Site) name).run.run opening =
      (.ok (name, (site.databases name).store), opening) :=
    congrArg (fun store => (Except.ok (name, store), opening)) held
  refine (run_bind_of_ok (run_access near site)).trans ?_
  refine (run_bind_of_ok clock).trans ?_
  refine (run_bind_of_ok begun).trans ?_
  have saved := does_save opening name (site.databases name).store name? params batch
    site.session.clock
  cases came : (site.databases name).store.save name? params batch site.session.clock with
  | error fault =>
      rw [came] at saved
      rw [ExceptT.run_bind, StateT.run_bind, saved]
      rfl
  | ok result =>
      rw [came] at saved
      refine (run_bind_of_ok saved).trans ?_
      exact congrArg (Prod.mk _) (update_update site name _ _)

/-- The clock stands still while a batch is saved. -/
theorem clockIn_eq {name : String} (near : Path.ancestors name = []) (site : Site) :
    clockIn site name = site.session.clock := by
  have accessed := run_access near site
  rw [clockIn]
  change ((Host.clock : StateM Site Nat).run
    ((Store.access name : Opening (StateM Site) String).run.run site).2).1 = _
  rw [accessed]
  rfl

end Saving

end Site

/-- Saves batches one after the other, each at its own time: those that were saved, and the store in
the end. -/
def Store.saveEach (store : Store) : List SaveRequest → List SaveRequest × Store
  | [] => ([], store)
  | request :: rest =>
      match store.save request.name? request.params request.batch request.clock with
      | .error _ => store.saveEach rest
      | .ok (_, kept) => (request :: (kept.saveEach rest).1, (kept.saveEach rest).2)

theorem Store.mem_saveEach {store : Store} {requests : List SaveRequest} {request : SaveRequest}
    (mem : request ∈ (store.saveEach requests).1) : request ∈ requests := by
  induction requests generalizing store with
  | nil => cases mem
  | cons first rest ih =>
      rw [Store.saveEach] at mem
      split at mem
      · exact List.mem_cons_of_mem _ (ih mem)
      · rcases List.mem_cons.1 mem with rfl | mem
        · exact List.mem_cons_self
        · exact List.mem_cons_of_mem _ (ih mem)

namespace Site

section Histories

variable {name : String} (near : Path.ancestors name = [])
include near

theorem exists_history_from {saved : List SaveRequest} {site : Site}
    (history : (view name).History name saved site) (requests : List SaveRequest) :
    ∃ last : Site,
      (view name).History name
        (saved ++ ((site.databases name).store.saveEach requests).1) last ∧
      (last.databases name).store = ((site.databases name).store.saveEach requests).2 := by
  induction requests generalizing saved site with
  | nil =>
      refine ⟨site, ?_, rfl⟩
      rw [Store.saveEach, List.append_nil]
      exact history
  | cons request rest ih =>
      have history : (view name).History name saved (site.atClock request.clock) :=
        .pass history (.refl _)
      have saving := saveIn_eq near (site.atClock request.clock) request.name? request.params
        request.batch
      rw [Store.saveEach]
      change saveIn (site.atClock request.clock) name request.name? request.params request.batch =
        match (site.databases name).store.save request.name? request.params request.batch
          request.clock with
        | .error fault => _
        | .ok (runId, kept) => _ at saving
      cases came : (site.databases name).store.save request.name? request.params request.batch
        request.clock with
      | error fault =>
          rw [came] at saving
          have next := ih (.refuse history saving)
          rw [databases_update_self, Holdings.store_ofStore] at next
          exact next
      | ok result =>
          rw [came] at saving
          have clock := clockIn_eq near (site.atClock request.clock)
          have next := ih (.save history request clock.symm saving)
          rw [databases_update_self, Holdings.store_ofStore, List.append_assoc] at next
          exact next

/-- Any batches can be saved at any times, one after the other, to a database that is new. -/
theorem exists_history (requests : List SaveRequest) :
    ∃ last : Site, (view name).History name (Store.empty.saveEach requests).1 last ∧
      (last.databases name).store = (Store.empty.saveEach requests).2 := by
  have new : (view name).History name [] (start 0) := .new rfl
  exact exists_history_from near new requests

end Histories

section Samples

/-- A name that is used in samples; it lies where relative paths start. -/
def sampleName : String := "runs.db"

theorem ancestors_sampleName : Path.ancestors sampleName = [] := by
  decide +kernel

theorem isTransactional_sampleName : (view sampleName).IsTransactional sampleName :=
  isTransactional ancestors_sampleName

variable (site : Site) {batch : Batch}

/-- A batch that the tables take. -/
theorem saveIn_sample {runId : String} {kept : Store}
    (taken : (site.databases sampleName).store.save none .standard batch site.session.clock =
      .ok (runId, kept)) :
    saveIn site sampleName none .standard batch =
      (.ok runId, site.update sampleName (.ofStore kept)) := by
  rw [saveIn_eq ancestors_sampleName, taken]

/-- A batch that the tables do not take. -/
theorem saveIn_refused_sample {fault : StoreFault}
    (refused : (site.databases sampleName).store.save none .standard batch site.session.clock =
      .error fault) :
    saveIn site sampleName none .standard batch =
      (.error fault, site.update sampleName (.ofStore (site.databases sampleName).store)) := by
  rw [saveIn_eq ancestors_sampleName, refused]

end Samples

end Site
end Likeness
