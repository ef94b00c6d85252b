import Likeness.Batch.Basic
import Likeness.Files.Host
import Likeness.Text.Utf8

/-!
# Listings of a directory

The submissions of a directory are its regular files whose names end with a given suffix.  The
name of a file identifies the submission, so a name that is no text cannot serve: such a file
is left out and named as well as it can be shown.

The listing names the submissions in the order of their names, whatever order the directory
lists them in.
-/

namespace Likeness

/-- The submissions of a directory. -/
structure Listing where
  /-- Names of files in ascending order. -/
  names : List String
  /-- Files whose names are no text, in the order of the directory. -/
  skipped : List Skipped
deriving DecidableEq, Repr, Inhabited

namespace Listing

def hasEnding (suffix name : String) : Bool :=
  suffix.toList.isSuffixOf name.toList

/-- The name of an entry that is a submission and has a name. -/
def name? (suffix : String) (entry : Entry) : Option String :=
  if entry.isFile then (String.fromUTF8? entry.name).filter (hasEnding suffix) else none

/-- The reason for leaving out a file whose name is no text. -/
def namelessReason : String := "file name is not valid UTF-8"

/-- What is reported of an entry that is a submission but has a name that is no text. -/
def nameless? (suffix : String) (entry : Entry) : Option Skipped :=
  if entry.isFile && (String.fromUTF8? entry.name).isNone
      && hasEnding suffix (Utf8.shown entry.name) then
    some ⟨Utf8.shown entry.name, namelessReason⟩
  else none

def ofEntries (suffix : String) (entries : List Entry) : Listing :=
  ⟨(entries.filterMap (name? suffix)).mergeSort (fun a b => decide (a ≤ b)),
    entries.filterMap (nameless? suffix)⟩

end Listing

end Likeness
