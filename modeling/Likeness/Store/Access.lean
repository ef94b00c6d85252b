import Likeness.Files.Resolve
import Likeness.Store.Archive.Filing
import Likeness.Store.Beside.Journal
import Likeness.Store.Beside.Log
import Likeness.Store.Database
import Likeness.Store.Location

/-!
# Archives on a host

Archives are an engine for databases on a host.  A database lies in the file that its name stands
for, which is made if the location allows it; one without a file is forgotten at once.

While a file is written, a journal stands beside it.  A journal of somebody else is dealt with
before the file is read, and so is a log: what they say is done to the file, and they are removed,
or the store is refused.

Rows are added to an archive in memory; its file is written when they are committed, and only then.
-/

namespace Likeness
namespace Store

variable {m : Type → Type} [Monad m] [Host m]

def refuse {α : Type} (refusal : StoreRefusal) : Opening m α :=
  throw (.refused refusal)

/-- A store that is open. -/
structure Opened where
  /-- The resolved path of its file; a store without a file has none. -/
  file? : Option String
  isWritable : Bool
  /-- Whether its file is written next to a journal. -/
  isJournaled : Bool
  archive : Archive

section Beside

/-- What stands at a path beside a file. -/
inductive Neighbor
  | nothing
  | directory
  /-- A symbolic link to a directory or a file. -/
  | link
  /-- A file with something in it. -/
  | file (content : ByteArray)

def journalEnding : String := "-journal"

/-- The path of the journal of a file. -/
def journalOf (file : String) : String :=
  file ++ journalEnding

/-- The path of the log of a file. -/
def logOf (file : String) : String :=
  file ++ "-wal"

/-- The path of the index of the log of a file. -/
def indexOf (file : String) : String :=
  file ++ "-shm"

/-- Whether a symbolic link stands at a path. -/
def isLink (path : String) : m Bool :=
  return (← Host.linkTarget? path) matches .ok (some _)

/-- Looks beside a file.  A file without content is as good as none, and so is a link that
leads to none. -/
def neighbor (path : String) : m Neighbor := do
  let linked ← isLink path
  if ← Host.isDirectory path then return if linked then .link else .directory
  match ← Host.read path with
  | .error _ => return .nothing
  | .ok content =>
      if content.isEmpty then return .nothing
      return if linked then .link else .file content

/-- Removes a file, if that can be done. -/
def discard (path : String) : Opening m Unit := do
  let _ ← ExceptT.lift (Host.remove path)
  return ()

/-- Gives a file another content.  Nothing is done if it has that content already. -/
def amend (file : String) (before after : ByteArray) : Opening m ByteArray := do
  if before == after then return before
  match ← ExceptT.lift (Host.write file after) with
  | .error _ => refuse .unopenedBeside
  | .ok () => return after

/-- Deals with the journal of a file with some content: what the file holds then.  A journal that
starts with a zero has been finished. -/
def settleJournal (file : String) (isWritable : Bool) (content : ByteArray) :
    Opening m ByteArray := do
  match ← ExceptT.lift (neighbor (journalOf file)) with
  | .nothing => return content
  | .directory => refuse .unreadableJournal
  | .link => refuse (if isWritable then .unopenedBeside else .unfinished)
  | .file journal =>
      if journal[0]? = some 0 then return content
      else if isWritable then
        let content ← amend file content (Journal.undone content journal)
        discard (journalOf file)
        return content
      else refuse .unfinished

/-- How a file is written, as far as what lies beside it is concerned. -/
inductive Manner
  /-- Next to a journal. -/
  | journaled
  /-- Through a log. -/
  | logged
  /-- Not at all: it has a log whose index cannot be written. -/
  | fixed
deriving DecidableEq

/-- Looks at the index of the log of a file. -/
def settleIndex (engine : StoreEngine) (file : String) : Opening m Manner := do
  if !engine.keepsIndex then return .logged
  if ← ExceptT.lift (isLink (indexOf file)) then refuse .unopenedBeside
  return if ← ExceptT.lift (Host.isDirectory (indexOf file)) then .fixed else .logged

/-- Deals with the log of a file with some content: how the file is written, and what it holds
then. -/
def settleLog (engine : StoreEngine) (file : String) (isWritable : Bool) (content : ByteArray) :
    Opening m (Manner × ByteArray) := do
  match ← ExceptT.lift (neighbor (logOf file)) with
  | .nothing =>
      if !Head.isLogged content then return (.journaled, content)
      if !engine.keepsLogs then refuse .unopenedBeside
      return (← settleIndex engine file, content)
  | .file log =>
      if !engine.keepsLogs then refuse .unopenedBeside
      let manner ← settleIndex engine file
      match Log.replayed? content log with
      | none => refuse .unopenedBeside
      | some replayed =>
          if manner = .logged ∧ isWritable then
            let _ ← amend file content replayed
            discard (logOf file)
          return (manner, replayed)
  | _ => refuse .unopenedBeside

/-- Removes the journal of a file with nothing in it, if that can be done. -/
def clearJournal (file : String) : Opening m Unit := do
  match ← ExceptT.lift (neighbor (journalOf file)) with
  | .nothing => return ()
  | _ => discard (journalOf file)

/-- Removes the log of a file with nothing in it. -/
def clearLog (file : String) : Opening m Unit := do
  match ← ExceptT.lift (neighbor (logOf file)) with
  | .nothing => return ()
  | _ =>
      match ← ExceptT.lift (Host.remove (logOf file)) with
      | .ok () => return ()
      | .error _ => refuse .stuckLog

/-- Deals with what lies beside a file with some content: how the file is written, and what it
holds then. -/
def settleBeside (location : StoreLocation) (file : String) (content : ByteArray) :
    Opening m (Manner × ByteArray) := do
  if location.frozen then return (.journaled, content)
  let isWritable := location.access != .readOnly
  let content ←
    if !location.engine.seesJournals then pure content
    else if Head.isVoid content then
      clearJournal file
      pure content
    else settleJournal file isWritable content
  if Head.isVoid content then
    clearLog file
    return (.journaled, content)
  settleLog location.engine file isWritable content

end Beside

section Opening

/-- Gets ready to write a store. -/
def prepare (opened : Opened) : Opening m Unit := do
  if !opened.isWritable then refuse .readOnly
  match opened.file? with
  | none => return ()
  | some file =>
      if opened.isJournaled then
        if ← ExceptT.lift (isLink (journalOf file)) then refuse .unopenedBeside
        match ← ExceptT.lift (Host.write (journalOf file) .empty) with
        | .error _ => refuse .unopenedBeside
        | .ok () => return ()

/-- Removes the journal of a store that has been written, or will not be. -/
def conclude (opened : Opened) : Opening m Unit := do
  match opened.file? with
  | none => return ()
  | some file => if opened.isJournaled then discard (journalOf file)

/-- Writes an archive that has been changed to its file. -/
def put (opened : Opened) (changed : Except StoreRefusal Archive) : Opening m Opened := do
  prepare opened
  match changed with
  | .error refusal =>
      conclude opened
      refuse refusal
  | .ok archive =>
      match opened.file? with
      | none => return { opened with archive }
      | some file =>
          match ← ExceptT.lift (Host.write file (Head.content archive.image)) with
          | .error _ => refuse .unopenedBeside
          | .ok () =>
              conclude opened
              return { opened with archive }

/-- Puts the table of a part where there is none. -/
def establish (opened : Opened) (part : Part) : Opening m Opened := do
  if opened.archive.hasPart part then return opened
  if opened.archive.catalog.hasIndex part.name then refuse (.taken part.name)
  put opened (opened.archive.addPart part)

def openImage (file? : Option String) (isWritable isJournaled : Bool) (image : Image) :
    Opening m Opened :=
  match Archive.ofImage image with
  | .error refusal => refuse refusal
  | .ok archive => return ⟨file?, isWritable, isJournaled, archive⟩

/-- The content of the file of a store, which is made if its location allows it.  The store is
refused under the name `shown`. -/
def contentOf (shown : String) (access : StoreAccess) (file : String) :
    Opening m ByteArray := do
  if ← ExceptT.lift (Host.isDirectory file) then
    refuse (if access = .readOnly then .unreadable else .unopened shown)
  match ← ExceptT.lift (Host.read file) with
  | .ok content => return content
  | .error (.refused .missing) =>
      if access = .made then
        match ← ExceptT.lift (Host.write file .empty) with
        | .ok () => return .empty
        | .error _ => refuse (.unopened shown)
      else refuse (.unopened shown)
  | .error _ => refuse (.unopened shown)

def openContent (location : StoreLocation) (file : String) (content : ByteArray) :
    Opening m Opened := do
  let (manner, content) ← settleBeside location file content
  let isWritable :=
    location.access != .readOnly && !location.frozen && manner != .fixed
      && Head.isWritable content
  if Head.isVoid content then openImage (some file) isWritable true Head.fresh
  else
    match Head.refusal? content with
    | some refusal => refuse refusal
    | none => openImage (some file) isWritable (manner == .journaled) (Head.image content)

/-- Whether something is there at a path. -/
def isThere (path : String) : m Bool := do
  if ← Host.isDirectory path then return true
  return (← Host.read path) matches .ok _

def openFile (shown : String) (location : StoreLocation) : Opening m Opened := do
  match ← ExceptT.lift (Host.resolve? location.path) with
  | none => refuse (.unopened shown)
  | some file =>
      if Resolved.pathLimit < (journalOf file).utf8ByteSize then refuse (.unopened shown)
      match location.model? with
      | some model => if !(← ExceptT.lift (isThere model)) then refuse .unreadable
      | none => pure ()
      openContent location file (← contentOf shown location.access file)

/-- Opens a store without a file. -/
def openTransient (isWritable : Bool) : Opening m Opened :=
  openImage none isWritable false Head.fresh

def openLocation (shown : String) (location : StoreLocation) : Opening m Opened :=
  let mayWrite := location.access != .readOnly
  if location.isForgotten then openTransient mayWrite
  else if location.engine.inMemory then openTransient (mayWrite && !location.frozen)
  else openFile shown location

def connect (name : String) : Opening m Opened := do
  if name.contains '\x00' then throw (.nullInPath name)
  else
    match StoreLocation.parse name with
    | .error refusal => refuse refusal
    | .ok location => openLocation name location

end Opening

section Filing

/-- A store with rows that have not been written. -/
structure Pending where
  opened : Opened
  filing : Archive.Filing

/-- Gets ready to add rows to a part. -/
def Pending.prepare (pending : Pending) (part : Part) (keys : List String) :
    Except StoreFault Unit :=
  (pending.filing.store.admits part keys).mapError .ofTable

/-- Adds a row to a part. -/
def Pending.insert (pending : Pending) (part : Part) (given : List (String × Cell)) :
    Except StoreFault Pending :=
  if !pending.opened.isWritable then .error (.refused .readOnly)
  else
    match pending.filing.insert part given with
    | .error fault => .error (.ofTable fault)
    | .ok filing => .ok { pending with filing }

/-- Writes a store with all rows that were added to its file. -/
def Pending.commit (pending : Pending) : Opening m Unit := do
  match pending.filing.finish? with
  | none => throw (.ofTable .illegible)
  | some changed =>
      let _ ← put pending.opened (.ok changed)
      return ()

/-- Stores are kept in archives. -/
instance : Database m where
  Connection := Opened
  Transaction := Pending
  connect := connect
  create := establish
  transact opened := return ⟨opened, .start opened.archive⟩
  prepare pending part keys := ExceptT.mk (return pending.prepare part keys)
  insert pending part given := ExceptT.mk (return pending.insert part given)
  commit := Pending.commit
  select opened query := ExceptT.mk (return (opened.archive.answer query).mapError .asked)

end Filing

end Store
end Likeness
