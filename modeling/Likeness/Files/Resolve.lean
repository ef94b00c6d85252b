import Likeness.Files.Host

/-!
# Resolved paths

A resolved path starts at the root and has no links, no steps on the spot and no steps up; it
is the same for all paths that lead to the same file.  `Host.resolve?` resolves a path step by
step, and the file itself need not be there.  It gives up on paths that grow too long, on too
many links, and on what the system refuses to look at.
-/

namespace Likeness
namespace Resolved

/-- How many bytes a resolved path has at most. -/
def pathLimit : Nat := 512

/-- How many links are followed. -/
def linkLimit : Nat := 201

/-- The path along some names from the root.  The names are given from the last one up. -/
def path (names : List String) : String :=
  String.join (names.reverse.map ("/" ++ ·))

/-- Whether one more name can be looked at below a path: a slash, the name and a byte after it
have to fit. -/
def hasRoom (names : List String) (name : String) : Bool :=
  (path names).utf8ByteSize + name.utf8ByteSize + 2 ≤ pathLimit

variable {m : Type → Type} [Monad m] [Host m]

/-- Resolves some steps from below the names `done`, following at most `links` links. -/
def follow? (links : Nat) (done : List String) (steps : List String) :
    m (Option (List String)) := do
  match steps with
  | [] => return some done
  | name :: rest =>
      if name = "." then follow? links done rest
      else if name = ".." then follow? links done.tail rest
      else if !hasRoom done name then return none
      else
        match ← Host.linkTarget? (path (name :: done)) with
        | .ok none | .error (.refused .missing) => follow? links (name :: done) rest
        | .error _ => return none
        | .ok (some target) =>
            match links with
            | 0 => return none
            | links + 1 =>
                follow? links (if Path.isAbsolute target then [] else done)
                  (Path.names target ++ rest)
termination_by (links, steps.length)

end Resolved

/-- The resolved path of a file, if there is one. -/
def Host.resolve? {m : Type → Type} [Monad m] [Host m] (path : String) :
    m (Option String) := do
  let start ← if Path.isAbsolute path then pure "/" else Host.workingDirectory
  let names ← Resolved.follow? Resolved.linkLimit [] (Path.names start ++ Path.names path)
  return (names.filter (fun names => !names.isEmpty)).map Resolved.path

end Likeness
