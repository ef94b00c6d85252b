import Likeness.EditDistance.Table
import Likeness.Files.Host
import Likeness.Report.Text
import Likeness.Tree.Ternary

/-!
# Measuring the time of comparisons

Three pairs of ternary trees of one size are compared a number of times each: a tree with
itself, with one in which three of ten labels differ, and with one in which all labels differ.
For each pair the distance and the time are shown.
-/

namespace Likeness
namespace Benchmark

/-- A label of a common tree. -/
def common (i : Nat) : String := "v" ++ toString i

/-- A label that is not in a common tree. -/
def foreign (i : Nat) : String := "w" ++ toString i

/-- A label of which seven of ten are in a common tree. -/
def mixed (i : Nat) : String := if i % 10 < 7 then common i else foreign i

/-- Nanoseconds as seconds. -/
def seconds (nanoseconds : Nat) : Binary64 :=
  (Binary64.ofNat nanoseconds).div (.ofNat 1000000000)

/-- The lines about a pair that was compared a number of times. -/
def lines (title : String) (times distance nanoseconds : Nat) : String :=
  let total := seconds nanoseconds
  let each := total.div (.ofNat times)
  Printed.line ""
    ++ Printed.line (title ++ ":")
    ++ Printed.line ("  Distance: " ++ toString distance)
    ++ Printed.line ("  Total time: " ++ total.fixed 3 ++ "s")
    ++ Printed.line ("  Per comparison: " ++ (each.mul (.ofNat 1000)).fixed 3 ++ "ms")
    ++ Printed.line ("  Comparisons/sec: " ++ (Binary64.one.div each).fixed 0)

variable {m : Type → Type} [Monad m] [Host m]

/-- Compares a pair at least once and shows the lines about it. -/
def measure (iterations : Nat) (base : Tree) (title : String) (other : Tree) : m Unit := do
  let times := max iterations 1
  let (distance, nanoseconds) ← Host.timed times (fun () => editDistance base other)
  Host.say (lines title times distance nanoseconds)

/-- Measures the three pairs. -/
def run (iterations size : Nat) : m Unit := do
  Host.say (Printed.line "=== Tree Edit Distance Benchmark ==="
    ++ Printed.line ("Iterations: " ++ toString iterations)
    ++ Printed.line ("Tree size: " ++ toString size))
  let base := Tree.ternary size common
  measure iterations base "Identical trees" base
  measure iterations base "70% matching labels" (Tree.ternary size mixed)
  measure iterations base "No matching labels" (Tree.ternary size foreign)

end Benchmark
end Likeness
