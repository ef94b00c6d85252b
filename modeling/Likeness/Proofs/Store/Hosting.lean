import Likeness.Files.Session
import Likeness.Proofs.Store.Access
import Likeness.Store.Access

/-!
# Archives hold back what is saved

In a session, archives do nothing to the directory tree before a transaction is committed, and they
add a row only if the tables take it.  What is committed is written as a whole file, and a file that
cannot be written is left as it was; at most the journal beside it, which is empty, is left behind.

However a store is opened, what is known of it is read off the image that its file holds.  Tables
are made only where they are missing.

**Main statements.**
* `Archive.holdsBack`: the statements of a transaction.
* `Store.LeavesFile`, `Store.WritesFile`, `Store.ends_put`: what is done to a file.
* `Store.ends_establish`, `Store.run_createAll_of_hasPart`, `Store.isRead_of_openIn`: opening.
* `Store.ends_saveRun_of_opened`: saving to a store that has been opened.
-/

namespace Likeness

namespace Archive

theorem Filing.insert_eq_ok {filing next : Filing} {part : Part} {given : List (String × Cell)}
    (inserted : filing.insert part given = .ok next) :
    filing.store.insert part given = .ok next.store := by
  simp only [Filing.insert] at inserted
  split at inserted
  · obtain ⟨store, came, same⟩ := bind_eq_ok inserted
    cases same
    exact came
  · next table _ =>
      split at inserted
      · cases inserted
      · cases came : filing.store.insert part given with
        | error fault =>
            rw [came] at inserted
            cases fault <;> cases inserted
        | ok store =>
            rw [came] at inserted
            dsimp only at inserted
            split at inserted
            · cases inserted
            · split at inserted
              · cases inserted
                rfl
              · split at inserted
                · cases inserted
                · cases inserted
                  rfl

/-- What is known of an archive is what is in its image. -/
def IsRead (archive : Archive) : Prop :=
  ofImage archive.image = .ok { archive with rooms := [] }

theorem eq_of_ofImage {image : Image} {archive : Archive} (read : ofImage image = .ok archive) :
    archive.image = image ∧ archive.rooms = [] := by
  rw [ofImage] at read
  obtain ⟨catalog, _, came⟩ := bind_eq_ok read
  split at came
  · cases came
    exact ⟨rfl, rfl⟩
  · cases came

theorem isRead_of_ofImage {image : Image} {archive : Archive} (read : ofImage image = .ok archive) :
    archive.IsRead := by
  obtain ⟨rfl, fresh⟩ := eq_of_ofImage read
  rw [IsRead, read, ← fresh]

/-- An archive to which a table is added is read again from what has become of its image. -/
theorem isRead_of_addPart {archive changed : Archive} {part : Part}
    (added : archive.addPart part = .ok changed) : changed.IsRead := by
  rw [addPart] at added
  split at added
  · cases added
  · obtain ⟨read, came, same⟩ := bind_eq_ok added
    cases same
    have read := isRead_of_ofImage came
    exact read

/-- How a transaction on an archive is seen in a session. -/
def view (held : Session → Holdings) (opened : Store.Opened) : View Session where
  held := held
  IsOpen _ _ := True
  Sees _ pending store := pending.opened = opened ∧ pending.filing.store = store
  IsReady _ := False

end Archive

namespace Store

theorem Pending.insert_eq_ok {pending next : Pending} {part : Part}
    {given : List (String × Cell)} (inserted : pending.insert part given = .ok next) :
    pending.filing.store.insert part given = .ok next.filing.store ∧
      next.opened = pending.opened := by
  rw [Pending.insert] at inserted
  split at inserted
  · cases inserted
  · split at inserted
    · cases inserted
    · next filing filed =>
        cases inserted
        exact ⟨Archive.Filing.insert_eq_ok filed, rfl⟩

end Store

/-- Whatever is looked at in a session, archives hold back what a transaction does. -/
theorem Archive.holdsBack (held : Session → Holdings) (opened : Store.Opened) :
    (view held opened).HoldsBack where
  prepare session pending store part keys sees := by
    obtain ⟨same, rfl⟩ : pending.opened = opened ∧ pending.filing.store = store := sees
    exact ⟨rfl, fun admitted => ⟨mapError_eq_ok admitted, same, rfl⟩⟩
  insert session pending store part given sees := by
    obtain ⟨same, rfl⟩ : pending.opened = opened ∧ pending.filing.store = store := sees
    refine ⟨rfl, ?_⟩
    intro next inserted
    obtain ⟨taken, kept⟩ := Store.Pending.insert_eq_ok inserted
    exact ⟨_, taken, kept.trans same, rfl⟩

namespace Store

section Files

variable {opened : Opened} {session opening after : Session}

def writeIn (session : Session) (file : String) (content : ByteArray) :
    Except FileFault Unit × Session :=
  (Host.write file content : StateM Session (Except FileFault Unit)).run session

/-- Removing a file in a session, if that can be done. -/
def removeIn (session : Session) (file : String) : Session :=
  ((Host.remove file : StateM Session (Except FileFault Unit)).run session).2

/-- Writing a file either fails and does nothing, or is done. -/
theorem writeIn_cases (session : Session) (file : String) (content : ByteArray) :
    (∃ fault, writeIn session file content = (.error fault, session)) ∨
      ∃ after, writeIn session file content = (.ok (), after) := by
  have ran : writeIn session file content =
      (Session.change file (fun disk route => disk.write route content)).run session := rfl
  rw [ran, Session.change, StateT.run_bind, StateT.run_get]
  cases came : (Route.ofPath file).bind (fun route => session.disk.write route content) with
  | error fault =>
      refine Or.inl ⟨fault, ?_⟩
      simp only [pure_bind, came]
      rfl
  | ok disk =>
      refine Or.inr ⟨{ session with disk }, ?_⟩
      simp only [pure_bind, came]
      rfl

/-- A journal without anything in it has been written if the store needs one. -/
def IsPrepared (opened : Opened) (opening prepared : Session) : Prop :=
  prepared = opening ∨ ∃ file, opened.file? = some file ∧
    writeIn opening (journalOf file) .empty = (.ok (), prepared)

/-- What is left when the journal of a store is removed. -/
def concluded (opened : Opened) (session : Session) : Session :=
  match opened.file? with
  | none => session
  | some file => if opened.isJournaled then removeIn session (journalOf file) else session

/-- At most the journal of a store has been written, and the journal is empty; it may have been
removed again. -/
def LeavesFile (opened : Opened) (opening after : Session) : Prop :=
  ∃ prepared, IsPrepared opened opening prepared ∧
    (after = prepared ∨ after = concluded opened prepared)

/-- An archive has been written to the file of a store, if the store has one. -/
def WritesFile (opened : Opened) (archive : Archive) (opening after : Session) : Prop :=
  match opened.file? with
  | none => after = opening
  | some file => ∃ prepared written, IsPrepared opened opening prepared ∧
      writeIn prepared file (Head.content archive.image) = (.ok (), written) ∧
        after = concluded opened written

theorem ends_prepare (opened : Opened) (opening : Session) :
    Ends (prepare opened) opening (fun _ after => IsPrepared opened opening after) := by
  rw [prepare]
  cases opened.isWritable with
  | false => exact Or.inl rfl
  | true =>
      cases stored : opened.file? with
      | none => exact Or.inl rfl
      | some file =>
          cases opened.isJournaled with
          | false => exact Or.inl rfl
          | true =>
              refine ends_lift_bind ?_
              dsimp only
              cases ((isLink (journalOf file) : StateM Session Bool).run opening).1 with
              | true => exact Or.inl rfl
              | false =>
                  rcases writeIn_cases opening (journalOf file) .empty with
                    ⟨fault, wrote⟩ | ⟨prepared, wrote⟩
                  · exact ends_lift_bind_of_eq wrote (Or.inl rfl)
                  · exact ends_lift_bind_of_eq wrote (Or.inr ⟨file, stored, wrote⟩)

theorem run_conclude (opened : Opened) (session : Session) :
    (conclude opened : Opening (StateM Session) Unit).run.run session =
      (.ok (), concluded opened session) := by
  rw [conclude, concluded]
  cases opened.file? with
  | none => rfl
  | some file => cases opened.isJournaled <;> rfl

/-- A store is written to its file as a whole, or its file is left alone. -/
theorem ends_put (opened : Opened) (changed : Except StoreRefusal Archive) (opening : Session) :
    Ends (put opened changed) opening (fun answer after =>
      match answer with
      | .error _ => LeavesFile opened opening after
      | .ok opened' => ∃ archive, changed = .ok archive ∧ opened' = { opened with archive } ∧
          WritesFile opened archive opening after) := by
  refine Ends.bind ((ends_prepare opened opening).imp ?_)
  rintro (fault | done) prepared - isPrepared
  · exact ⟨prepared, isPrepared, Or.inl rfl⟩
  cases changed with
  | error refusal =>
      refine Ends.of_run (run_bind_of_ok (run_conclude opened prepared)) ?_
      exact ⟨prepared, isPrepared, Or.inr rfl⟩
  | ok archive =>
      cases stored : opened.file? with
      | none =>
          have written : WritesFile opened archive opening prepared := by
            rw [WritesFile, stored]
            rcases isPrepared with same | ⟨file, there, _⟩
            · exact same
            · rw [stored] at there
              cases there
          exact ⟨archive, rfl, rfl, written⟩
      | some file =>
          rcases writeIn_cases prepared file (Head.content archive.image) with
            ⟨fault, wrote⟩ | ⟨written, wrote⟩
          · exact ends_lift_bind_of_eq wrote ⟨prepared, isPrepared, Or.inl rfl⟩
          · refine ends_lift_bind_of_eq wrote ?_
            refine Ends.of_run (run_bind_of_ok (run_conclude opened written)) ?_
            refine ⟨archive, rfl, rfl, ?_⟩
            rw [WritesFile, stored]
            exact ⟨prepared, written, isPrepared, wrote, rfl⟩

/-- Rows that cannot be committed leave the file as it was. -/
theorem ends_commit (pending : Pending) (opening : Session) :
    Ends pending.commit opening (fun answer after =>
      match answer with
      | .error _ => LeavesFile pending.opened opening after
      | .ok _ => ∃ changed, pending.filing.finish? = some changed ∧
          WritesFile pending.opened changed opening after) := by
  rw [Pending.commit]
  cases finished : pending.filing.finish? with
  | none => exact ⟨opening, Or.inl rfl, Or.inl rfl⟩
  | some changed =>
      refine Ends.bind ((ends_put pending.opened (.ok changed) opening).imp ?_)
      rintro (fault | opened) after - written
      · exact written
      · obtain ⟨archive, same, -, written⟩ := written
        cases same
        exact ⟨changed, rfl, written⟩

end Files

section Opening

variable {opened : Opened} {session opening : Session}

/-- A store is open only with an archive that has been read. -/
def OpensRead (answer : Except StoreFault Opened) (_ : Session) : Prop :=
  ∀ opened, answer = .ok opened → opened.archive.IsRead

theorem opensRead_refused (fault : StoreFault) (session : Session) :
    OpensRead (.error fault) session := by
  intro opened same
  cases same

theorem opensRead_bind {α : Type} {action : Opening (StateM Session) α}
    {next : α → Opening (StateM Session) Opened}
    (rest : ∀ a after, Ends (next a) after OpensRead) : Ends (action >>= next) session OpensRead :=
  ends_bind_of_forall opensRead_refused rest

theorem opensRead_openImage (file? : Option String) (isWritable isJournaled : Bool) (image : Image)
    (session : Session) :
    Ends (openImage file? isWritable isJournaled image) session OpensRead := by
  rw [openImage]
  cases read : Archive.ofImage image with
  | error refusal => exact opensRead_refused _ _
  | ok archive =>
      intro opened same
      cases same
      exact Archive.isRead_of_ofImage read

theorem opensRead_openContent (location : StoreLocation) (file : String) (content : ByteArray)
    (session : Session) : Ends (openContent location file content) session OpensRead := by
  rw [openContent]
  refine opensRead_bind ?_
  rintro ⟨manner, content⟩ settled
  dsimp only
  split
  · exact opensRead_openImage _ _ _ _ _
  · split
    · exact opensRead_refused _ _
    · exact opensRead_openImage _ _ _ _ _

theorem opensRead_openFile (shown : String) (location : StoreLocation) (session : Session) :
    Ends (openFile shown location) session OpensRead := by
  have opens (file : String) (content : ByteArray) (session : Session) :=
    opensRead_openContent location file content session
  rw [openFile]
  refine opensRead_bind ?_
  rintro (none | file) resolved
  · exact opensRead_refused _ _
  · dsimp only
    split
    · exact opensRead_refused _ _
    · split
      · refine opensRead_bind ?_
        rintro isThere looked
        cases isThere with
        | false => exact opensRead_refused _ _
        | true => exact opensRead_bind fun content _ => opens file content _
      · exact opensRead_bind fun content _ => opens file content _

theorem opensRead_connect (name : String) (session : Session) :
    Ends (connect name) session OpensRead := by
  rw [connect]
  split
  · exact opensRead_refused _ _
  · split
    · exact opensRead_refused _ _
    · rw [openLocation]
      split
      · exact opensRead_openImage _ _ _ _ _
      · split
        · exact opensRead_openImage _ _ _ _ _
        · exact opensRead_openFile _ _ _

/-- The table of a part is made where it is missing; where it cannot be made, the file is left
alone. -/
theorem ends_establish (opened : Opened) (part : Part) (opening : Session) :
    Ends (establish opened part) opening (fun answer after =>
      match answer with
      | .error _ => LeavesFile opened opening after
      | .ok opened' =>
          if opened.archive.hasPart part then opened' = opened ∧ after = opening
          else ∃ archive, opened.archive.addPart part = .ok archive ∧
            opened' = { opened with archive } ∧ WritesFile opened archive opening after) := by
  rw [establish]
  by_cases there : opened.archive.hasPart part = true
  · simp only [if_pos there]
    exact ⟨rfl, rfl⟩
  · simp only [if_neg there]
    split
    · exact ⟨opening, Or.inl rfl, Or.inl rfl⟩
    · exact ends_put opened (opened.archive.addPart part) opening

/-- Where no table is missing, none is made. -/
theorem run_createAll_of_hasPart (parts : List Part)
    (there : ∀ part ∈ parts, opened.archive.hasPart part = true) :
    (parts.foldlM (Database.create (m := StateM Session)) opened).run.run session =
      (.ok opened, session) := by
  induction parts with
  | nil => rfl
  | cons part parts ih =>
      have settled : (Database.create (m := StateM Session) opened part).run.run session =
          (.ok opened, session) := by
        change (establish opened part : Opening (StateM Session) Opened).run.run session = _
        rw [establish, if_pos (there part List.mem_cons_self)]
        rfl
      rw [List.foldlM_cons]
      refine (run_bind_of_ok settled).trans ?_
      exact ih fun part mem => there part (List.mem_cons_of_mem _ mem)

theorem opensRead_createAll (parts : List Part) (read : opened.archive.IsRead)
    (session : Session) :
    Ends (parts.foldlM (Database.create (m := StateM Session)) opened) session OpensRead := by
  induction parts generalizing opened session with
  | nil =>
      intro opened' same
      cases same
      exact read
  | cons part parts ih =>
      rw [List.foldlM_cons]
      refine Ends.bind ((ends_establish opened part session).imp ?_)
      rintro (fault | opened') after - made
      · exact opensRead_refused _ _
      · refine ih ?_ after
        dsimp only at made
        split at made
        · rw [made.1]
          exact read
        · obtain ⟨archive, added, rfl, -⟩ := made
          exact Archive.isRead_of_addPart added

def openIn (session : Session) (path : String) : Except StoreFault Opened × Session :=
  (access path : Opening (StateM Session) Opened).run.run session

/-- Whatever is done to open a store, what is known of it then is what is in its image. -/
theorem isRead_of_openIn {path : String} (accessed : openIn session path = (.ok opened, opening)) :
    opened.archive.IsRead := by
  have ends : Ends (access path : Opening (StateM Session) Opened) session OpensRead := by
    rw [access]
    refine opensRead_bind ?_
    rintro (fault | done) made
    · exact opensRead_refused _ _
    · refine Ends.bind ((opensRead_connect path made).imp ?_)
      rintro (fault | connected) after - read
      · exact opensRead_refused _ _
      · exact opensRead_createAll Part.all (read connected rfl) after
  exact ends.elim accessed opened rfl

end Opening

section Saving

variable {session opening : Session} {path : String} {opened : Opened}

/-- What a transaction does before it is committed, it does in memory. -/
theorem run_saveBy (pending : Pending) (name? : Option String) (params : Params) (batch : Batch)
    (clock : Nat) (session : Session) :
    (saveBy (Database.prepare (m := StateM Session)) Database.insert pending name? params batch
      clock).run.run session =
      (saveBy Pending.prepare Pending.insert pending name? params batch clock, session) := by
  have prepares (pending : Pending) (part : Part) (keys : List String) :
      Does session (Database.prepare (m := StateM Session) pending part keys)
        (pending.prepare part keys) id := by
    rw [Does, Except.map_id]
    rfl
  have inserts (pending : Pending) (part : Part) (given : List (String × Cell)) :
      Does session (Database.insert (m := StateM Session) pending part given)
        (pending.insert part given) id := by
    rw [Does, Except.map_id]
    rfl
  have does := does_saveBy prepares inserts pending name? params batch clock
  rw [Does] at does
  refine does.trans ?_
  cases saveBy Pending.prepare Pending.insert pending name? params batch clock <;> rfl

/-- Saving a batch to a store that has been opened: either the tables take all of its rows and
the file is written as a whole, or the file is left as it was. -/
theorem ends_saveRun_of_opened (accessed : openIn session path = (.ok opened, opening))
    (name? : Option String) (params : Params) (batch : Batch) :
    Ends (ExceptT.mk (saveRun path name? params batch)) session (fun answer after =>
      match answer with
      | .error _ => LeavesFile opened opening after
      | .ok runId => ∃ (filing : Archive.Filing) (changed : Archive),
          opened.archive.store.save name? params batch opening.clock = .ok (runId, filing.store) ∧
            filing.finish? = some changed ∧ WritesFile opened changed opening after) := by
  have begun : (Database.transact (m := StateM Session) opened).run.run opening =
      (.ok ⟨opened, .start opened.archive⟩, opening) := rfl
  have saved := run_saveBy ⟨opened, .start opened.archive⟩ name? params batch opening.clock opening
  have sees : (Archive.view (fun _ => .new) opened).Sees opening ⟨opened, .start opened.archive⟩
      opened.archive.store := ⟨rfl, rfl⟩
  have follows := (Archive.holdsBack (fun _ => .new) opened).follows_save sees name? params batch
    opening.clock
  refine Ends.bind (Ends.of_run accessed ?_)
  refine ends_lift_bind ?_
  refine Ends.bind (Ends.of_run begun ?_)
  refine Ends.bind (Ends.of_run saved ?_)
  cases came : saveBy Pending.prepare Pending.insert ⟨opened, .start opened.archive⟩ name? params
    batch opening.clock with
  | error fault => exact ⟨opening, Or.inl rfl, Or.inl rfl⟩
  | ok result =>
      rw [came] at saved
      obtain ⟨-, done⟩ := follows.elim saved
      obtain ⟨⟨_, _⟩, taken, rfl, same, rfl⟩ := done result rfl
      refine Ends.bind ((ends_commit result.2 opening).imp ?_)
      rintro (fault | finished) after - committed
      · rw [← same]
        exact committed
      · obtain ⟨changed, finished, written⟩ := committed
        rw [same] at written
        exact ⟨result.2.filing, changed, taken, finished, written⟩

end Saving
end Store
end Likeness
