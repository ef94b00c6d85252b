import Likeness.Files.Host
import Likeness.Store.Basic

/-!
# Stores in databases

A store is kept in a database under a name.  An engine opens databases, makes tables in them, adds
rows within transactions and answers questions; everything that is done with stores is written in
terms of an engine, so that it runs on whatever keeps tables.

A store is opened under the text that names it.  The directory that this text lies in, taken as a
path, is made if it is not there, and the store gets those of its tables that are missing.  All of
this also happens when the store is only read.

A batch is saved within one transaction.  A transaction that is not committed is rolled back.
-/

namespace Likeness

/-- A step on the way to a store. -/
abbrev Opening (m : Type → Type) (α : Type) : Type := ExceptT StoreFault m α

/-- What stores need of an engine for databases. -/
class Database (m : Type → Type) where
  /-- A database that is open. -/
  Connection : Type
  /-- What has been done to a database since a transaction was begun on it. -/
  Transaction : Type
  /-- Opens the database of a name. -/
  connect : String → Opening m Connection
  /-- Makes the table of a part where there is none. -/
  create : Connection → Part → Opening m Connection
  /-- Begins a transaction. -/
  transact : Connection → Opening m Transaction
  /-- Gets ready to add rows to a part with values for some columns. -/
  prepare : Transaction → Part → List String → Opening m Unit
  /-- Adds a row to a part. -/
  insert : Transaction → Part → List (String × Cell) → Opening m Transaction
  commit : Transaction → Opening m Unit
  select : Connection → Query → Opening m Answer

namespace Store

variable {m : Type → Type} [Monad m] [Host m] [Database m]

/-- Opens the store that a text names. -/
def access (name : String) : Opening m (Database.Connection m) := do
  match ← ExceptT.lift (Host.makeParent name) with
  | .error fault => throw (.file fault)
  | .ok () => Part.all.foldlM Database.create (← Database.connect name)

/-- Saves a batch at the time of the clock: the name of the new run. -/
def saveRun (name : String) (runName? : Option String) (params : Params) (batch : Batch) :
    m (Except StoreFault String) := ExceptT.run do
  let connection ← access name
  let clock ← ExceptT.lift Host.clock
  let transaction ← Database.transact connection
  let (runId, transaction) ←
    saveBy Database.prepare Database.insert transaction runName? params batch clock
  Database.commit transaction
  return runId

def ask {α : Type} (connection : Database.Connection m) (query : Query)
    (read : Answer → Except QuestionFault α) : Opening m α := do
  match read (← Database.select connection query) with
  | .error fault => throw (.asked fault)
  | .ok answer => return answer

/-- The runs of a store, the latest first. -/
def listRuns (name : String) : m (Except StoreFault (List RunInfo)) := ExceptT.run do
  ask (← access name) .runs readInfos

/-- The records of a run in the order of their names. -/
def loadResults (name runId : String) : m (Except StoreFault (List Record)) := ExceptT.run do
  let connection ← access name
  ask connection (.run runId) (demand runId)
  ask connection (.results runId) readRecords

/-- The identifiers of a run and the matrix of its similarities.  The records are read through a
connection of their own. -/
def loadMatrix (name runId : String) :
    m (Except StoreFault (List String × SymmetricMatrix Binary64)) := ExceptT.run do
  let connection ← access name
  ask connection (.run runId) (demand runId)
  let identifiers ← ask connection (.files runId) readFiles
  let records ← ExceptT.mk (loadResults name runId)
  return (identifiers, matrixOf identifiers records)

end Store

end Likeness
