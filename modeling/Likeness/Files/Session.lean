import Likeness.Files.Disk

/-!
# Sessions in memory

A session is a host without a system: a directory tree, a clock that stands still, and what
has been written to both streams.
-/

namespace Likeness

/-- The state of a host without a system. -/
structure Session where
  disk : Disk
  /-- The path of the directory where relative paths start. -/
  home : String
  /-- Milliseconds since the start of 1970. -/
  clock : Nat
  /-- Number of workers that there is room for. -/
  room : Nat
  output : String
  complaints : String

namespace Session

/-- A session in a directory of a tree at a given time. -/
def start (disk : Disk) (home : String) (clock : Nat) : Session :=
  ⟨disk, home, clock, 1, "", ""⟩

/-- Looks something up in the directory tree. -/
def look {α : Type} (path : String) (operation : Disk → Route → Except FileFault α) :
    StateM Session (Except FileFault α) := do
  return (Route.ofPath path).bind (operation (← get).disk)

/-- Changes the directory tree, unless it cannot be done. -/
def change (path : String) (operation : Disk → Route → Except FileFault Disk) :
    StateM Session (Except FileFault Unit) := do
  let session ← get
  match (Route.ofPath path).bind (operation session.disk) with
  | .error fault => return .error fault
  | .ok disk =>
      set { session with disk }
      return .ok ()

instance : Host (StateM Session) where
  read path := look path Disk.read
  write path content := change path (fun disk route => disk.write route content)
  entries path := look path Disk.entries
  makeDirectory path := change path Disk.makeDirectory
  remove path := change path Disk.remove
  linkTarget? path := look path Disk.linkTarget?
  workingDirectory := return (← get).home
  isDirectory path :=
    return (← look path (fun disk route => .ok (disk.isDirectory route))) matches .ok true
  clock := return (← get).clock
  room := return (← get).room
  timed _ work := return (work (), 0)
  say text := modify (fun session => { session with output := session.output ++ text })
  complain text :=
    modify (fun session => { session with complaints := session.complaints ++ text })

end Session

end Likeness
