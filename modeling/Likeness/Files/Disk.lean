import Likeness.Files.Host

/-!
# A directory tree in memory

A disk numbers the items of a directory tree; the root has number zero.  An item is a file, a
directory, which names the numbers of its items, or a symbolic link.  A walk goes from a
directory along some names: `..` goes up (and stays at the root), a link is replaced by its
target, and after forty links the walk is given up.  What happens at the last name depends on
what the walk is for.

`Disk.read`, `Disk.write`, `Disk.entries`, `Disk.makeDirectory` and `Disk.remove` are the
operations of a host; they are refused for the reasons for which a system refuses them.
-/

namespace Likeness

/-- An item of a directory tree. -/
inductive DiskItem
  | file (content : ByteArray)
  /-- A directory with the number of the directory it lies in, and with its items in the order
  in which they were made. -/
  | directory (above : Nat) (items : List (ByteArray × Nat))
  | link (target : String)
deriving DecidableEq

namespace DiskItem

def enter (name : ByteArray) (number : Nat) : DiskItem → DiskItem
  | .directory above items => .directory above (items ++ [(name, number)])
  | it => it

/-- A directory without the names of an item. -/
def leave (number : Nat) : DiskItem → DiskItem
  | .directory above items => .directory above (items.filter (fun entry => entry.2 != number))
  | it => it

end DiskItem

/-- A directory tree, and the directory where relative paths start. -/
structure Disk where
  /-- The items by their numbers. -/
  items : Array DiskItem
  /-- The number of the directory where relative paths start. -/
  here : Nat
deriving DecidableEq

namespace Disk

/-- A tree of nothing but the root. -/
def empty : Disk := ⟨#[.directory 0 []], 0⟩

def number? (disk : Disk) (directory : Nat) (name : ByteArray) : Option Nat :=
  match disk.items[directory]? with
  | some (.directory _ items) => items.lookup name
  | _ => none

/-- The directory that a directory lies in. -/
def above (disk : Disk) (directory : Nat) : Nat :=
  match disk.items[directory]? with
  | some (.directory above _) => above
  | _ => 0

section Walks

/-- What a walk is for. -/
inductive Purpose
  /-- What stands at the end is used; if it is a link, what the link leads to. -/
  | visit
  /-- What stands at the end is used, be it a link. -/
  | point
  /-- A file is written at the end, and made if there is none. -/
  | make
deriving DecidableEq

/-- Where a walk ends: at an item, or at a free name in a directory. -/
inductive Spot
  | taken (number : Nat)
  | vacant (directory : Nat) (name : ByteArray)
deriving DecidableEq

/-- How many links a walk follows. -/
def linkLimit : Nat := 40

/-- How many bytes a name has at most. -/
def nameLimit : Nat := 255

/-- The name of the directory itself. -/
def dot : ByteArray := ".".toUTF8

/-- The name of the directory above. -/
def dots : ByteArray := "..".toUTF8

/-- Walks from a directory along some names and follows at most `links` links. -/
def walk (disk : Disk) (purpose : Purpose) (links here : Nat) (steps : List ByteArray) :
    Except Refusal Spot :=
  match steps with
  | [] => .ok (.taken here)
  | step :: rest =>
      if step.isEmpty || step == dot then walk disk purpose links here rest
      else if step == dots then walk disk purpose links (disk.above here) rest
      else if purpose = .make && rest == [ByteArray.empty] then .error .isDirectory
      else if nameLimit < step.size then .error .nameTooLong
      else
        match disk.number? here step with
        | none =>
            if rest.all ByteArray.isEmpty then .ok (.vacant here step) else .error .missing
        | some there =>
            match disk.items[there]? with
            | some (.link target) =>
                if rest.isEmpty && purpose = .point then .ok (.taken there)
                else
                  match links with
                  | 0 => .error .linkLoop
                  | links + 1 =>
                      walk disk purpose links (if Path.isAbsolute target then 0 else here)
                        (Path.steps target ++ rest)
            | some (.file _) =>
                if rest.isEmpty then .ok (.taken there) else .error .notDirectory
            | _ => walk disk purpose links there rest
termination_by (links, steps.length)

/-- Walks along a path. -/
def locate (disk : Disk) (purpose : Purpose) (route : Route) : Except FileFault Spot :=
  if Route.limit ≤ route.size then .error (.refused .nameTooLong)
  else
    (disk.walk purpose linkLimit (if route.absolute then 0 else disk.here)
      route.steps).mapError .refused

/-- The number of what stands at the end of a walk. -/
def find (disk : Disk) (purpose : Purpose) (route : Route) : Except FileFault Nat := do
  match ← disk.locate purpose route with
  | .taken number => return number
  | .vacant .. => throw (.refused .missing)

end Walks

section Operations

/-- The tree with one more item, under a free name in a directory. -/
def add (disk : Disk) (directory : Nat) (name : ByteArray) (it : DiskItem) : Disk :=
  { disk with
    items := (disk.items.modify directory (DiskItem.enter name disk.items.size)).push it }

def read (disk : Disk) (route : Route) : Except FileFault ByteArray := do
  match disk.items[← disk.find .visit route]? with
  | some (.file content) => return content
  | _ => throw (.refused .isDirectory)

/-- The tree with a file of the given content under a path. -/
def write (disk : Disk) (route : Route) (content : ByteArray) : Except FileFault Disk := do
  match ← disk.locate .make route with
  | .vacant directory name => return disk.add directory name (.file content)
  | .taken number =>
      match disk.items[number]? with
      | some (.file _) =>
          return { disk with items := disk.items.setIfInBounds number (.file content) }
      | _ => throw (.refused .isDirectory)

/-- Whether a path leads to a file. -/
def isFile (disk : Disk) (route : Route) : Bool :=
  (disk.read route) matches .ok _

/-- The entries of a directory, in the order in which they were made. -/
def entries (disk : Disk) (route : Route) : Except FileFault (List Entry) := do
  match disk.items[← disk.find .visit route]? with
  | some (.directory _ items) =>
      return items.map (fun (name, _) => ⟨name, disk.isFile (route.child name)⟩)
  | _ => throw (.refused .notDirectory)

/-- The number of the directory that a path leads to. -/
def directory? (disk : Disk) (route : Route) : Option Nat :=
  match disk.find .visit route with
  | .error _ => none
  | .ok number =>
      match disk.items[number]? with
      | some (.directory ..) => some number
      | _ => none

/-- Whether a path leads to a directory. -/
def isDirectory (disk : Disk) (route : Route) : Bool :=
  (disk.directory? route).isSome

def linkTarget? (disk : Disk) (route : Route) : Except FileFault (Option String) := do
  match disk.items[← disk.find .point route]? with
  | some (.link target) => return some target
  | _ => return none

def makeDirectory (disk : Disk) (route : Route) : Except FileFault Disk := do
  match ← disk.locate .point route with
  | .vacant directory name => return disk.add directory name (.directory directory [])
  | .taken _ => throw (.refused .taken)

/-- The tree with one more symbolic link. -/
def makeLink (disk : Disk) (route : Route) (target : String) : Except FileFault Disk := do
  match ← disk.locate .point route with
  | .vacant directory name => return disk.add directory name (.link target)
  | .taken _ => throw (.refused .taken)

/-- The tree without a file or a link. -/
def remove (disk : Disk) (route : Route) : Except FileFault Disk := do
  let number ← disk.find .point route
  match disk.items[number]? with
  | some (.directory ..) => throw (.refused .isDirectory)
  | _ => return { disk with items := disk.items.map (DiskItem.leave number) }

/-- The same tree, with relative paths starting at another directory. -/
def enter (disk : Disk) (route : Route) : Disk :=
  { disk with here := (disk.directory? route).getD disk.here }

end Operations

end Disk

end Likeness
