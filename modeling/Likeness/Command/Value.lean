import Likeness.Instances

/-!
# Values on a command line

What an argument says is a text, a path, a number or the form of a report.  Paths are not
empty, and numbers fit 64 bits and may have a plus sign.

`ValueKind.accepts` decides whether a text is a value of a kind; the readers `countOf?`,
`pathOf?` and `formatOf?` yield the values.
-/

namespace Likeness

/-- The two forms of a report in a file. -/
inductive ReportFormat
  | document
  | table
deriving DecidableEq, Repr

/-- A number of 64 bits, possibly with a plus sign. -/
def countOf? (text : String) : Option Nat :=
  let digits := match text.toList with
    | '+' :: digits => digits
    | digits => digits
  if digits.isEmpty || !digits.all Char.isDigit then none
  else
    let n := digits.foldl (fun n c => 10 * n + (c.toNat - 48)) 0
    if n < 2 ^ 64 then some n else none

def pathOf? (text : String) : Option String :=
  if text.isEmpty then none else some text

def formatOf? (text : String) : Option ReportFormat :=
  if text = "json" then some .document
  else if text = "csv" then some .table
  else none

/-- What a value has to be. -/
inductive ValueKind
  | text
  | path
  | count
  | format
deriving DecidableEq, Repr

def ValueKind.accepts : ValueKind → String → Bool
  | .text, _ => true
  | .path, value => (pathOf? value).isSome
  | .count, value => (countOf? value).isSome
  | .format, value => (formatOf? value).isSome

end Likeness
