import Likeness.Submission.Loading

/-!
# Comparing the submissions of a directory

A directory is loaded, and all pairs of its trees are compared.  The batch carries the files
that were left out.
-/

namespace Likeness

/-- Why the submissions of a directory cannot be compared. -/
inductive CompareFault
  | load (fault : LoadFault)
  | tooFew (fault : TooFew)
deriving DecidableEq, Repr

namespace CompareFault

def message : CompareFault → String
  | .load fault => "load error: " ++ fault.message
  | .tooFew fault => fault.message

/-- A fault as a value of its own, for reports that show values. -/
def inspect : CompareFault → String
  | .load fault => "Load(" ++ fault.inspect ++ ")"
  | .tooFew fault =>
      FileFault.shownRecord "InsufficientInput" [("found", toString fault.found)]

end CompareFault

namespace Batch

/-- The batch with the files that were left out. -/
def withSkipped (batch : Batch) (skipped : List Skipped) : Batch :=
  { batch with
    skipped
    summary := { batch.summary with skippedFiles := skipped.length } }

/-- The batch with the milliseconds it took. -/
def withElapsed (batch : Batch) (elapsedMs : Nat) : Batch :=
  { batch with summary := { batch.summary with elapsedMs } }

end Batch

/-- Compares all pairs of the trees of a directory. -/
def Loaded.compare (available : Nat) (params : Params) (cancelled : Bool) (loaded : Loaded) :
    Except TooFew Batch :=
  (compareCollection available params cancelled loaded.trees 0).map
    (fun batch => batch.withSkipped loaded.skipped)

/-- Loads a directory and compares all pairs of its trees. -/
def compareDirectory {m : Type → Type} [Monad m] [Host m] (directory : String)
    (params : Params) (cancelled : Bool) : m (Except CompareFault Batch) := do
  match ← loadDirectory directory params.suffix with
  | .error fault => return .error (.load fault)
  | .ok loaded =>
      let available ← Host.room
      let start ← Host.clock
      match loaded.compare available params cancelled with
      | .error fault => return .error (.tooFew fault)
      | .ok batch => return .ok (batch.withElapsed ((← Host.clock) - start))

end Likeness
