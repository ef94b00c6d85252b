import Likeness.Store.Database
import Mathlib.Data.List.Basic

/-!
# Databases that are transactional

What is proved of saving and reading holds for any engine that does what the documentation of
SQLite says, and for any host.  A database holds tables, and an engine is only looked at through
what a database holds, which connections are open to it, and what the statements of a transaction
see.  The rest, such as files, locks and what can go wrong with them, is left to the engine.

**Main statements.**
* `Holdings`, `View`: what can be seen of a database.
* `View.IsTransactional`: what is asked of an engine.
* `Ends.bind`, `Ends.imp`: actions in a row.
-/

namespace Likeness

/-- What a database holds.  Tables of a store may be missing, and there may be others. -/
structure Holdings where
  table? : Part → Option Table
  others : List Table

namespace Holdings

/-- A database that is new. -/
def new : Holdings :=
  ⟨fun _ => none, []⟩

def ofStore (store : Store) : Holdings :=
  ⟨fun part => some (store.table part), store.others⟩

/-- The table of a part, which is empty where it is missing. -/
def table (holdings : Holdings) (part : Part) : Table :=
  (holdings.table? part).getD (.ofDefinition part.definition)

/-- The store in a database, in which no table is missing. -/
def store (holdings : Holdings) : Store :=
  ⟨holdings.table .runs, holdings.table .files, holdings.table .pairs, holdings.others⟩

/-- A database in which the table of a part is made where it is missing. -/
def make (holdings : Holdings) (part : Part) : Holdings :=
  { holdings with
    table? := fun other =>
      if other = part then some (holdings.table part) else holdings.table? other }

/-- Every table is as it was; only tables that were missing may be there now, without rows. -/
structure MadeUpTo (before after : Holdings) : Prop where
  others : after.others = before.others
  tables : ∀ part, after.table? part = before.table? part ∨
    before.table? part = none ∧ after.table? part = some (.ofDefinition part.definition)

/-- The tables that are there are those of a store.  Tables that somebody else has made may have
other rules, such as that a new row takes the place of an old one. -/
def IsStandard (holdings : Holdings) : Prop :=
  ∀ part table, holdings.table? part = some table → table.definition = part.definition

@[simp] theorem store_ofStore (store : Store) : (ofStore store).store = store := rfl

theorem IsStandard.definition_eq {holdings : Holdings} (standard : holdings.IsStandard)
    (part : Part) : (holdings.store.table part).definition = part.definition := by
  have same : (holdings.table part).definition = part.definition := by
    rw [Holdings.table]
    cases there : holdings.table? part with
    | none => rfl
    | some table => exact standard part table there
  cases part <;> exact same

/-- Where all tables are made, none is missing. -/
theorem make_all (holdings : Holdings) : Part.all.foldl make holdings = ofStore holdings.store := by
  have tables : (Part.all.foldl make holdings).table? = (ofStore holdings.store).table? := by
    funext part
    cases part <;> rfl
  change Holdings.mk (Part.all.foldl make holdings).table? holdings.others = _
  rw [tables]
  rfl

namespace MadeUpTo

variable {before middle after : Holdings}

protected theorem refl (holdings : Holdings) : holdings.MadeUpTo holdings :=
  ⟨rfl, fun _ => Or.inl rfl⟩

theorem of_eq (same : after = before) : before.MadeUpTo after :=
  same ▸ .refl _

theorem trans (first : before.MadeUpTo middle) (second : middle.MadeUpTo after) :
    before.MadeUpTo after := by
  refine ⟨second.others.trans first.others, ?_⟩
  intro part
  rcases second.tables part with same | ⟨missing, made⟩
  · rw [same]
    exact first.tables part
  · rcases first.tables part with same | ⟨_, made'⟩
    · exact Or.inr ⟨same ▸ missing, made⟩
    · rw [made'] at missing
      cases missing

theorem make (holdings : Holdings) (part : Part) : holdings.MadeUpTo (holdings.make part) := by
  refine ⟨rfl, ?_⟩
  intro other
  by_cases same : other = part
  · subst same
    cases there : holdings.table? other with
    | none => exact Or.inr ⟨rfl, by simp [Holdings.make, table, there]⟩
    | some table' => exact Or.inl (by simp [Holdings.make, table, there])
  · exact Or.inl (if_neg same)

theorem table_eq (made : before.MadeUpTo after) (part : Part) :
    after.table part = before.table part := by
  rcases made.tables part with same | ⟨missing, made⟩
  · rw [table, same]
    rfl
  · rw [table, table, missing, made]
    rfl

/-- A table that is missing counts as one without rows. -/
theorem store_eq (made : before.MadeUpTo after) : after.store = before.store := by
  rw [store, made.table_eq, made.table_eq, made.table_eq, made.others]
  rfl

/-- Where no table is missing, none can be made. -/
theorem eq_ofStore {store : Store} (made : (ofStore store).MadeUpTo after) :
    after = ofStore store := by
  have tables : after.table? = (ofStore store).table? := by
    funext part
    rcases made.tables part with same | ⟨missing, _⟩
    · exact same
    · cases missing
  cases after
  cases tables
  cases made.others
  rfl

end MadeUpTo

end Holdings

section Actions

variable {W α β : Type}

/-- What is true of the answer of an action, and of the world that it leaves. -/
def Ends (action : Opening (StateM W) α) (world : W) (goal : Except StoreFault α → W → Prop) :
    Prop :=
  goal (action.run.run world).1 (action.run.run world).2

variable {world : W} {action : Opening (StateM W) α}
  {goal goal' : Except StoreFault α → W → Prop}

theorem Ends.imp (ends : Ends action world goal)
    (weaker : ∀ answer after, action.run.run world = (answer, after) → goal answer after →
      goal' answer after) : Ends action world goal' :=
  weaker _ _ rfl ends

theorem Ends.and (first : Ends action world goal) (second : Ends action world goal') :
    Ends action world (fun answer after => goal answer after ∧ goal' answer after) :=
  ⟨first, second⟩

theorem Ends.of_run {answer : Except StoreFault α} {after : W}
    (ran : action.run.run world = (answer, after)) (holds : goal answer after) :
    Ends action world goal := by
  rw [Ends, ran]
  exact holds

theorem Ends.elim (ends : Ends action world goal) {answer : Except StoreFault α} {after : W}
    (ran : action.run.run world = (answer, after)) : goal answer after := by
  rw [Ends, ran] at ends
  exact ends

/-- Two actions in a row: the second one is done only if the first one comes to something. -/
theorem Ends.bind {next : α → Opening (StateM W) β} {goal : Except StoreFault β → W → Prop}
    (ends : Ends action world (fun answer after =>
      match answer with
      | .error fault => goal (.error fault) after
      | .ok a => Ends (next a) after goal)) : Ends (action >>= next) world goal := by
  rw [Ends, ExceptT.run_bind, StateT.run_bind]
  rw [Ends] at ends
  rcases ran : action.run.run world with ⟨answer, after⟩
  rw [ran] at ends
  cases answer <;> exact ends

/-- A second action that does well wherever it is done. -/
theorem ends_bind_of_forall {next : α → Opening (StateM W) β}
    {goal : Except StoreFault β → W → Prop} (refused : ∀ fault after, goal (.error fault) after)
    (rest : ∀ a after, Ends (next a) after goal) : Ends (action >>= next) world goal := by
  rcases ran : action.run.run world with ⟨fault | a, after⟩
  · exact Ends.bind (Ends.of_run ran (refused fault after))
  · exact Ends.bind (Ends.of_run ran (rest a after))

theorem run_bind_of_ok {next : α → Opening (StateM W) β} {a : α} {after : W}
    (came : action.run.run world = (.ok a, after)) :
    (action >>= next).run.run world = (next a).run.run after := by
  rw [ExceptT.run_bind, StateT.run_bind, came]
  rfl

/-- An action of the host is never refused. -/
theorem ends_lift_bind {step : StateM W α} {next : α → Opening (StateM W) β}
    {goal : Except StoreFault β → W → Prop}
    (ends : Ends (next (step.run world).1) (step.run world).2 goal) :
    Ends (ExceptT.lift step >>= next) world goal :=
  Ends.bind ends

theorem ends_lift_bind_of_eq {step : StateM W α} {next : α → Opening (StateM W) β} {a : α}
    {after : W} {goal : Except StoreFault β → W → Prop} (came : step.run world = (a, after))
    (ends : Ends (next a) after goal) : Ends (ExceptT.lift step >>= next) world goal := by
  refine ends_lift_bind ?_
  rw [came]
  exact ends

end Actions

/-- How the database of a name is seen. -/
structure View (W : Type) [Database (StateM W)] where
  /-- What the database holds: all that has been committed. -/
  held : W → Holdings
  /-- A connection to the database is open. -/
  IsOpen : W → Database.Connection (StateM W) → Prop
  /-- A transaction on the database is under way, and its statements see these tables. -/
  Sees : W → Database.Transaction (StateM W) → Store → Prop
  /-- Nothing keeps the database from being opened and read. -/
  IsReady : W → Prop

namespace View

variable {W : Type} [Database (StateM W)]

/-- Whatever an action does, the database holds what it held. -/
def Leaves {α : Type} (view : View W) (action : StateM W α) : Prop :=
  ∀ world, view.held (action.run world).2 = view.held world

theorem Leaves.bind {α β : Type} {view : View W} {action : StateM W α} {next : α → StateM W β}
    (first : view.Leaves action) (rest : ∀ a, view.Leaves (next a)) :
    view.Leaves (action >>= next) := by
  intro world
  rw [StateT.run_bind]
  exact (rest _ _).trans (first world)

theorem leaves_pure {α : Type} (view : View W) (a : α) : view.Leaves (pure a) :=
  fun _ => rfl

/-- The statements of a transaction add rows only as the tables take them, and until the transaction
is committed nobody else sees these rows. -/
structure HoldsBack (view : View W) : Prop where
  prepare : ∀ world transaction store part keys, view.Sees world transaction store →
    Ends (Database.prepare transaction part keys) world (fun answer after =>
      view.held after = view.held world ∧
        (answer = .ok () → store.admits part keys = .ok () ∧ view.Sees after transaction store))
  insert : ∀ world transaction store part given, view.Sees world transaction store →
    Ends (Database.insert transaction part given) world (fun answer after =>
      view.held after = view.held world ∧
        ∀ transaction', answer = .ok transaction' →
          ∃ store', store.insert part given = .ok store' ∧ view.Sees after transaction' store')

variable [Host (StateM W)]

/-- The database of a name is kept as SQLite is documented to keep one. -/
structure IsTransactional (view : View W) (name : String) : Prop extends view.HoldsBack where
  /-- Directories are nothing that a database holds. -/
  makeDirectory : ∀ path, view.Leaves (Host.makeDirectory path)
  isDirectory : ∀ path, view.Leaves (Host.isDirectory path)
  /-- The directory of a database that is ready is there, or can be made. -/
  makeParent : ∀ world, view.IsReady world →
    ((Host.makeParent name : StateM W _).run world).1 = .ok () ∧
      view.IsReady ((Host.makeParent name : StateM W _).run world).2
  /-- A look at the clock changes nothing. -/
  clock : view.Leaves Host.clock
  clock_isOpen : ∀ world connection, view.IsOpen world connection →
    view.IsOpen ((Host.clock : StateM W Nat).run world).2 connection
  /-- To open a database changes nothing that it holds. -/
  connect : ∀ world, Ends (Database.connect name) world (fun answer after =>
    view.held after = view.held world ∧
      (∀ connection, answer = .ok connection → view.IsOpen after connection) ∧
      (view.IsReady world → (∃ connection, answer = .ok connection) ∧ view.IsReady after))
  /-- A table is made where it is missing, and otherwise nothing is done. -/
  create : ∀ world connection part, view.IsOpen world connection →
    Ends (Database.create connection part) world (fun answer after =>
      (∀ fault, answer = .error fault → view.held after = view.held world) ∧
      (∀ connection', answer = .ok connection' →
        view.IsOpen after connection' ∧ view.held after = (view.held world).make part) ∧
      (view.IsReady world → (∃ connection', answer = .ok connection') ∧ view.IsReady after))
  /-- A transaction begins with what the database holds. -/
  transact : ∀ world connection store, view.IsOpen world connection →
    view.held world = .ofStore store →
    Ends (Database.transact connection) world (fun answer after =>
      view.held after = view.held world ∧
        ∀ transaction, answer = .ok transaction → view.Sees after transaction store)
  /-- A transaction is committed as a whole, or not at all.  A database that has just been written
  can be read. -/
  commit : ∀ world transaction store, view.Sees world transaction store →
    Ends (Database.commit transaction) world (fun answer after =>
      (∀ fault, answer = .error fault → view.held after = view.held world) ∧
      (answer = .ok () → view.held after = .ofStore store ∧ view.IsReady after))
  /-- A question is answered from the tables, and changes none of them. -/
  select : ∀ world connection store query, view.IsOpen world connection →
    view.held world = .ofStore store →
    Ends (Database.select connection query) world (fun answer after =>
      view.held after = view.held world ∧ view.IsOpen after connection ∧
        (view.IsReady world →
          answer = (store.answer query).mapError .asked ∧ view.IsReady after))

end View

end Likeness
