import Likeness.Files.Fault

/-!
# Paths

A path is a text of names separated by slashes.  A leading slash makes it absolute, and a
trailing slash asks for a directory.  Empty names do not count.

* `Path.join` puts a name below a directory.
* `Path.ancestors` lists the directories that have to be there for the path to be there.
* `Route.ofPath` reads a path as the names to walk along, and refuses what no system takes.
-/

namespace Likeness
namespace Path

/-- Whether a path starts at the root. -/
def isAbsolute (path : String) : Bool :=
  path.startsWith "/"

/-- The names of a path, empty ones left out. -/
def names (path : String) : List String :=
  (path.splitOn "/").filter (fun name => !name.isEmpty)

/-- The names to walk along; an empty name at the end stands for a trailing slash. -/
def steps (path : String) : List ByteArray :=
  (names path).map String.toUTF8 ++ if path.endsWith "/" then [ByteArray.empty] else []

/-- A name below a directory; an absolute name stands for itself. -/
def join (directory name : String) : String :=
  if isAbsolute name then name
  else if directory.isEmpty || directory.endsWith "/" then directory ++ name
  else directory ++ "/" ++ name

section Ancestors

/-- A path without slashes and steps on the spot at its end.  Here and below, a path is read
from its end. -/
def trimEnd : List Char → List Char
  | '/' :: rest => if rest.isEmpty then ['/'] else trimEnd rest
  | '.' :: '/' :: rest => if rest.isEmpty then ['/'] else trimEnd rest
  | path => path

/-- The directory that a path lies in. -/
def up (path : List Char) : List Char :=
  trimEnd (path.dropWhile (fun c => c != '/'))

/-- Nothing is added at the end of a path. -/
theorem length_trimEnd_le (path : List Char) : (trimEnd path).length ≤ path.length := by
  fun_induction trimEnd path <;> simp_all <;> omega

/-- The directory that a path lies in has a shorter path, unless it is the root. -/
theorem length_up_lt (path : List Char) (inside : up path ≠ [])
    (below : up path ≠ ['/']) : (up path).length < path.length := by
  cases path with
  | nil => exact absurd rfl inside
  | cons c rest =>
      by_cases slash : c = '/'
      · subst slash
        have bound := length_trimEnd_le rest
        cases rest with
        | nil => exact absurd rfl below
        | cons d rest =>
            have step : up ('/' :: d :: rest) = trimEnd (d :: rest) := by simp [up, trimEnd]
            rw [step]
            exact Nat.lt_succ_of_le bound
      · have bound := length_trimEnd_le (rest.dropWhile (fun c => c != '/'))
        have shorter := (List.dropWhile_suffix (fun c : Char => c != '/') (l := rest)).length_le
        simp [up, slash]
        omega

/-- The directories above a path, the nearest first, down to the first name. -/
def above (path : List Char) : List (List Char) :=
  if _ : up path = [] ∨ up path = ['/'] then [] else up path :: above (up path)
termination_by path.length
decreasing_by
  rename_i ends
  exact length_up_lt path (fun e => ends (.inl e)) (fun e => ends (.inr e))

/-- The directory that a path lies in and the directories above it, the nearest first, down
to the first name. -/
def ancestors (path : String) : List String :=
  (above (trimEnd path.toList.reverse)).map (fun directory => String.ofList directory.reverse)

end Ancestors

end Path

section Routes

/-- A path as a walk. -/
structure Route where
  /-- Whether the walk starts at the root. -/
  absolute : Bool
  /-- The names to walk along; an empty name at the end asks for a directory. -/
  steps : List ByteArray
  /-- Number of bytes of the path. -/
  size : Nat
deriving DecidableEq

namespace Route

/-- Number of bytes for which a path is too long. -/
def limit : Nat := 4096

/-- The walk along a path. -/
def ofPath (path : String) : Except FileFault Route :=
  if path.contains '\x00' then .error .nullInName
  else if path.isEmpty then .error (.refused .missing)
  else .ok ⟨Path.isAbsolute path, Path.steps path, path.utf8ByteSize⟩

/-- The walk to a name below a directory. -/
def child (route : Route) (name : ByteArray) : Route :=
  let slash := if route.steps.getLast? = some ByteArray.empty then 0 else 1
  ⟨route.absolute, route.steps ++ [name], route.size + slash + name.size⟩

end Route

end Routes

end Likeness
