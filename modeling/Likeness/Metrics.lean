import Likeness.Binary64
import Likeness.Equivalence
import Likeness.Tree.Walk

/-!
# Structural metrics

Counts of the constructs in one tree, the mean length of its identifiers, and whether some
function calls itself by name.

A call belongs to the innermost function definition around it.  That definition may lack a
name; then no call directly inside of it counts as recursive, not even one of a function
further out.
-/

-- sums start from the zero of the core library
attribute [local instance (high)] Zero.ofOfNat0

namespace Likeness
namespace Metrics

/-- Reserved words, which are no identifiers even where a tree lists them as such. -/
def reserved : List String :=
  ["False", "None", "True", "and", "as", "assert", "async", "await", "break", "class",
    "continue", "def", "del", "elif", "else", "except", "finally", "for", "from", "global",
    "if", "import", "in", "is", "lambda", "nonlocal", "not", "or", "pass", "raise", "return",
    "try", "while", "with", "yield"]

def loopKinds : List String :=
  ["for_statement", "while_statement"]

def assignmentKinds : List String :=
  ["assignment", "augmented_assignment"]

def comprehensionKinds : List String :=
  ["list_comprehension", "dictionary_comprehension", "set_comprehension",
    "generator_expression"]

/-- The texts of all identifiers in pre-order, reserved words excepted. -/
def identifiers (tree : Tree) : List String :=
  (tree.nodes.filter
    (fun node => node.kind == "identifier" && !reserved.contains node.text)).map Tree.text

/-- Mean length of some texts, rounded to two decimal places; zero if there are none. -/
def meanLength (texts : List String) : Binary64 :=
  if texts.isEmpty then .zero
  else
    let mean := Float.ofNat (texts.map String.length).sum / Float.ofNat texts.length
    .ofFloat ((mean * 100.0).round / 100.0)

/-- Whether a node is a call of the function around it. -/
def isSelfCall (node : Tree) (enclosing? : Option String) : Bool :=
  node.kind == "call" && enclosing?.isSome && Equivalence.name? node == enclosing?

/-- The function around the children of a node. -/
def enclosingBelow (node : Tree) (enclosing? : Option String) : Option String :=
  if node.kind == "function_definition" then Equivalence.name? node else enclosing?

/-- Whether a self-call is found below the trees of a stack, each of which is tagged with
the name of the function around it.  Of the children of a node the last one is visited
first. -/
def findsSelfCall : List (Tree × Option String) → Bool
  | [] => false
  | (node, enclosing?) :: rest =>
      if isSelfCall node enclosing? then true
      else
        findsSelfCall
          ((Walk.tagged (enclosingBelow node enclosing?) node.children).reverse ++ rest)
termination_by stack => Walk.taggedSize stack
decreasing_by
  rw [Walk.taggedSize_reverse_tagged_append, Walk.taggedSize_cons, node.size_eq]
  omega

/-- Whether some function calls itself by name from inside its own body. -/
def isRecursive (tree : Tree) : Bool :=
  findsSelfCall [(tree, none)]

end Metrics

/-- The metrics of one tree. -/
structure Metrics where
  nodes : Nat
  depth : Nat
  functions : Nat
  classes : Nat
  calls : Nat
  loops : Nat
  conditionals : Nat
  assignments : Nat
  /-- Conditionals and loops and one. -/
  complexity : Nat
  exceptionHandlers : Nat
  comprehensions : Nat
  binaryOperations : Nat
  meanIdentifierLength : Binary64
  recursive : Bool
deriving DecidableEq, Repr, Inhabited

def Tree.metrics (tree : Tree) : Metrics :=
  let loops := tree.countKinds Metrics.loopKinds
  let conditionals := tree.countKinds ["if_statement"]
  { nodes := tree.count
    depth := tree.depth
    functions := tree.countKinds ["function_definition"]
    classes := tree.countKinds ["class_definition"]
    calls := tree.countKinds ["call"]
    loops
    conditionals
    assignments := tree.countKinds Metrics.assignmentKinds
    complexity := conditionals + loops + 1
    exceptionHandlers := tree.countKinds ["try_statement"]
    comprehensions := tree.countKinds Metrics.comprehensionKinds
    binaryOperations := tree.countKinds ["binary_operator"]
    meanIdentifierLength := Metrics.meanLength (Metrics.identifiers tree)
    recursive := Metrics.isRecursive tree }

end Likeness
