import Likeness.Submission.Listing
import Likeness.Tree.Document

/-!
# Loading submissions

A submission is loaded from the content of its file: the content has to be a text, the text
has to hold a tree, and every node of the tree has to have a kind.  A directory is loaded by
loading each file of its listing; a file that cannot be loaded is left out, and the fault is
the reason.  Only a directory that cannot be listed is a fault of its own.
-/

namespace Likeness

/-- Why a file or a directory cannot be loaded. -/
inductive LoadFault
  | file (fault : FileFault)
  /-- The text holds no tree. -/
  | unreadable (path : String) (rejection : Json.Rejection)
  /-- The tree has a node without a kind. -/
  | invalid (path : String) (flaw : String)
deriving DecidableEq, Repr

namespace LoadFault

def message : LoadFault → String
  | .file fault => fault.ioMessage
  | .unreadable path rejection => "failed to parse " ++ path ++ ": " ++ rejection.message
  | .invalid path flaw => "invalid tree in " ++ path ++ ": " ++ flaw

/-- A fault as a value of its own, for reports that show values. -/
def inspect : LoadFault → String
  | .file fault => "Io(" ++ fault.inspect ++ ")"
  | .unreadable path rejection =>
      FileFault.shownRecord "Parse"
        [("path", Quoting.fileName.quote path), ("source", rejection.inspect)]
  | .invalid path flaw =>
      FileFault.shownRecord "Invalid"
        [("path", Quoting.fileName.quote path), ("reason", Quoting.text.quote flaw)]

end LoadFault

section Contents

/-- The text of a file from what reading it came to. -/
def textOfContent (content : Except FileFault ByteArray) : Except FileFault String := do
  match String.fromUTF8? (← content) with
  | none => throw .notText
  | some text => return text

/-- The tree of a file from what reading it came to. -/
def Tree.ofContent (path : String) (content : Except FileFault ByteArray) :
    Except LoadFault Tree :=
  match textOfContent content with
  | .error fault => .error (.file fault)
  | .ok text =>
      match Tree.parse text with
      | .error rejection => .error (.unreadable path rejection)
      | .ok tree =>
          match tree.flaw? with
          | some flaw => .error (.invalid path flaw)
          | none => .ok tree

end Contents

/-- The trees of a directory, and the files that were left out. -/
structure Loaded where
  trees : Collection
  skipped : List Skipped
deriving Inhabited

namespace Loaded

/-- Adds a file with what reading it came to. -/
def add (directory : String) (loaded : Loaded) (name : String)
    (content : Except FileFault ByteArray) : Loaded :=
  match Tree.ofContent (Path.join directory name) content with
  | .ok tree => { loaded with trees := Collection.insert name tree loaded.trees }
  | .error fault => { loaded with skipped := loaded.skipped ++ [⟨name, fault.message⟩] }

/-- The files of a directory, each with what reading it came to, next to those that were left
out before. -/
def ofContents (directory : String) (skipped : List Skipped)
    (contents : List (String × Except FileFault ByteArray)) : Loaded :=
  contents.foldl (fun loaded (name, content) => loaded.add directory name content)
    ⟨[], skipped⟩

/-- The trees of a directory from its entries and from what reading each file comes to. -/
def ofEntries (directory suffix : String) (entries : List Entry)
    (content : String → Except FileFault ByteArray) : Loaded :=
  let listing := Listing.ofEntries suffix entries
  ofContents directory listing.skipped (listing.names.map (fun name => (name, content name)))

end Loaded

section Hosts

variable {m : Type → Type} [Monad m] [Host m]

def loadFile (path : String) : m (Except LoadFault Tree) :=
  return Tree.ofContent path (← Host.read path)

def listDirectory (directory suffix : String) : m (Except LoadFault Listing) := do
  match ← Host.entries directory with
  | .error fault => return .error (.file fault)
  | .ok entries => return .ok (Listing.ofEntries suffix entries)

def readEntry (directory name : String) : m (String × Except FileFault ByteArray) :=
  return (name, ← Host.read (Path.join directory name))

def loadDirectory (directory suffix : String) : m (Except LoadFault Loaded) := do
  match ← listDirectory directory suffix with
  | .error fault => return .error fault
  | .ok listing =>
      let contents ← listing.names.mapM (readEntry directory)
      return .ok (Loaded.ofContents directory listing.skipped contents)

end Hosts

end Likeness
