import Likeness.Command.Run
import Std.Time.DateTime.Timestamp

/-!
# The program

The host of the program is the system it runs on.  It follows symbolic links by itself, so this
host shows none.
-/

namespace Likeness
namespace SystemHost

/-- The number of a fault, which some operations report below zero. -/
def numberOf (code : UInt32) : Nat :=
  code.toInt32.toInt.natAbs

/-- A fault of the system by its number and its text. -/
def refusalOf : IO.Error → Refusal
  | .alreadyExists _ code details | .resourceExhausted _ code details
  | .inappropriateType _ code details | .noSuchThing _ code details
  | .invalidArgument _ code details | .permissionDenied _ code details
  | .otherError code details | .resourceBusy code details | .resourceVanished code details
  | .unsupportedOperation code details | .hardwareFault code details
  | .unsatisfiedConstraints code details | .illegalOperation code details
  | .protocolError code details | .timeExpired code details | .interrupted _ code details
  | .noFileOrDirectory _ code details => .ofNumber (numberOf code) details
  | .unexpectedEof => .other 0 "unexpected end of file"
  | .userError text => .other 0 text

/-- The outcome of an operation of the system. -/
def attempt {α : Type} (operation : IO α) : IO (Except FileFault α) := do
  try return .ok (← operation)
  catch fault => return .error (.refused (refusalOf fault))

def entriesOf (path : String) : IO (List Entry) := do
  let directory ← IO.FS.realPath path
  (← directory.readDir).toList.mapM (fun found => do
    let about ← attempt found.path.metadata
    return ⟨found.fileName.toUTF8, (about.map (fun data => data.type == .file)) matches .ok true⟩)

/-- Does the same work a number of times. -/
def repeated (work : Unit → Nat) : Nat → Nat → IO Nat
  | 0, last => return last
  | times + 1, _ => do repeated work times (← IO.lazyPure work)

instance : Host IO where
  read path := attempt (IO.FS.readBinFile path)
  write path content := attempt (IO.FS.writeBinFile path content)
  entries path := attempt (entriesOf path)
  makeDirectory path := attempt (IO.FS.createDir path)
  remove path := attempt (IO.FS.removeFile path)
  linkTarget? _ := return .ok none
  workingDirectory := return (← IO.currentDir).toString
  isDirectory path := do return (← attempt (do (← IO.FS.realPath path).isDir)) matches .ok true
  clock := return (← Std.Time.Timestamp.now).toMillisecondsSinceUnixEpoch.toInt.toNat
  room := return 1
  timed times work := do
    let start ← IO.monoNanosNow
    let last ← repeated work times 0
    return (last, (← IO.monoNanosNow) - start)
  say text := do (← IO.getStdout).putStr text
  complain text := do (← IO.getStderr).putStr text

end SystemHost
end Likeness

/-- Does what the command line asks for. -/
def main (arguments : List String) : IO UInt32 := do
  return (← Likeness.runProgram (m := IO) arguments).toUInt32
