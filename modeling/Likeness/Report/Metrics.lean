import Likeness.Metrics
import Likeness.Report.Text

/-!
# Printed metrics

The metrics of one tree as a list, and those of several trees as a table with a row for each.
-/

namespace Likeness
namespace Printed

/-- A truth value in words. -/
def yesOrNo (value : Bool) : String :=
  if value then "yes" else "no"

/-- A row of the table of metrics: a name and six columns on its right. -/
def statisticsRow (name nodes depth functions loops complexity recursion : String) : String :=
  padRight 32 name ++ " " ++ padLeft 7 nodes ++ " " ++ padLeft 6 depth ++ " "
    ++ padLeft 6 functions ++ " " ++ padLeft 6 loops ++ " " ++ padLeft 6 complexity ++ " "
    ++ padLeft 10 recursion

/-- The table of the metrics of some named trees, and the number of files left out. -/
def statistics (all : List (String × Metrics)) (skipped : Nat) : String :=
  line "=== Tree Statistics ==="
    ++ line (statisticsRow "File" "Nodes" "Depth" "Funcs" "Loops" "CC" "Recursion")
    ++ String.join (all.map (fun (name, m) =>
        line (statisticsRow name (toString m.nodes) (toString m.depth) (toString m.functions)
          (toString m.loops) (toString m.complexity) (yesOrNo m.recursive))))
    ++ (if skipped = 0 then ""
        else line "" ++ line ("Skipped " ++ toString skipped ++ " file(s)"))

/-- A line with a name and a number. -/
def counted (name : String) (n : Nat) : String :=
  line (name ++ ": " ++ toString n)

/-- The metrics of the tree of a file. -/
def metrics (file rootKind : String) (m : Metrics) : String :=
  line ("=== " ++ file ++ " ===")
    ++ line ("Root type: " ++ rootKind)
    ++ counted "Nodes" m.nodes
    ++ counted "Depth" m.depth
    ++ counted "Function definitions" m.functions
    ++ counted "Class definitions" m.classes
    ++ counted "Function calls" m.calls
    ++ counted "Loops" m.loops
    ++ counted "Conditionals" m.conditionals
    ++ counted "Assignments" m.assignments
    ++ counted "Estimated cyclomatic complexity" m.complexity
    ++ counted "Exception handlers" m.exceptionHandlers
    ++ counted "Comprehensions" m.comprehensions
    ++ counted "Binary operations" m.binaryOperations
    ++ line ("Mean identifier length: " ++ m.meanIdentifierLength.fixed 2)
    ++ line ("Recursion: " ++ yesOrNo m.recursive)

end Printed
end Likeness
