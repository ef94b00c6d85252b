import Likeness.Files.Fault
import Likeness.Files.Path

/-!
# Hosts

A host offers what a command needs from outside: files and directories, a clock, room for
workers, a stopwatch, and two streams to write to.  Everything that commands do is written in
terms of a host, so that it runs on a real system as well as on a directory tree in memory.
-/

namespace Likeness

/-- An entry of a directory. -/
structure Entry where
  name : ByteArray
  /-- Whether it is a regular file, or a link that leads to one. -/
  isFile : Bool
deriving DecidableEq

/-- What commands need from outside. -/
class Host (m : Type → Type) where
  /-- The content of a file. -/
  read : String → m (Except FileFault ByteArray)
  /-- Makes a file, or replaces the content of one. -/
  write : String → ByteArray → m (Except FileFault Unit)
  /-- The entries of a directory, in no particular order. -/
  entries : String → m (Except FileFault (List Entry))
  /-- Makes a directory in a directory that exists. -/
  makeDirectory : String → m (Except FileFault Unit)
  /-- Removes a file or a symbolic link. -/
  remove : String → m (Except FileFault Unit)
  /-- The target of the symbolic link at a path, if that is what stands there. -/
  linkTarget? : String → m (Except FileFault (Option String))
  /-- The directory where relative paths start. -/
  workingDirectory : m String
  /-- Whether a path leads to a directory. -/
  isDirectory : String → m Bool
  /-- Milliseconds since the start of 1970, or zero before. -/
  clock : m Nat
  /-- Number of workers that there is room for. -/
  room : m Nat
  /-- Does the same work a number of times: its last result, and the nanoseconds it took. -/
  timed : Nat → (Unit → Nat) → m (Nat × Nat)
  /-- Writes to the output. -/
  say : String → m Unit
  /-- Writes to the stream of complaints. -/
  complain : String → m Unit

namespace Host

variable {m : Type → Type} [Monad m] [Host m]

/-- The content of a text file. -/
def readText (path : String) : m (Except FileFault String) := do
  match ← Host.read path with
  | .error fault => return .error fault
  | .ok bytes =>
      match String.fromUTF8? bytes with
      | none => return .error .notText
      | some text => return .ok text

/-- Makes a text file, or replaces the content of one. -/
def writeText (path text : String) : m (Except FileFault Unit) :=
  Host.write path text.toUTF8

/-- Makes a directory unless it is there. -/
def settleDirectory (path : String) : m (Except FileFault Unit) := do
  match ← Host.makeDirectory path with
  | .ok () => return .ok ()
  | .error fault => return if ← Host.isDirectory path then .ok () else .error fault

/-- Makes the first of some directories, each of which lies in the next one, and those that
have to be there for it. -/
def makeDirectories : List String → m (Except FileFault Unit)
  | [] => return .ok ()
  | path :: above => do
      match ← settleDirectory path with
      | .error (.refused .missing) =>
          match ← makeDirectories above with
          | .error fault => return .error fault
          | .ok () => settleDirectory path
      | answer => return answer

/-- Makes the directory that a path lies in. -/
def makeParent (path : String) : m (Except FileFault Unit) :=
  makeDirectories (Path.ancestors path)

end Host

end Likeness
