import Likeness.Tree

/-!
# Ternary trees

Trees of a given size for measurements: every inner node has three children, as far as there
are nodes left.  The nodes are numbered level by level, so that the children of node `i` are
the nodes `3 i + 1`, `3 i + 2` and `3 i + 3`.  A leaf is an identifier with a label of its own.

`Tree.ternary` builds such a tree in one array of nodes: it goes through the numbers downwards,
finishes each node, and hands it over to its parent.  `Tree.ternaryFromRoot` builds it from the
root down.
-/

namespace Likeness
namespace Ternary

/-- The place that a node leaves behind when it is handed over. -/
def blank : Tree := Tree.leaf "identifier" ""

/-- The number of the parent of a node other than the first. -/
def parent (i : Nat) : Nat := (i - 1) / 3

/-- A node all of whose children have been handed over, the last one first.  A node without
children is a leaf and keeps its label. -/
def finish (node : Tree) : Tree :=
  if node.children.isEmpty then node
  else { node with kind := "block", text := "", children := node.children.reverse }

/-- Finishes node `i` and hands it over to its parent. -/
def settle (nodes : Array Tree) (i : Nat) : Array Tree :=
  let node := finish (nodes[i]?.getD blank)
  if i = 0 then nodes.setIfInBounds 0 node
  else (nodes.setIfInBounds i blank).modify (parent i) (fun above => above.withChild node)

/-- Finishes the nodes below `count` from the last one on. -/
def settleAll : Nat → Array Tree → Array Tree
  | 0, nodes => nodes
  | count + 1, nodes => settleAll count (settle nodes count)

/-- The numbers of the children of a node, as far as there are so many nodes. -/
def childNumbers (count i : Nat) : List Nat :=
  (List.range' (3 * i + 1) 3).filter (· < count)

/-- Children come behind their parent. -/
theorem lt_of_mem_childNumbers {count i child : Nat} (h : child ∈ childNumbers count i) :
    i < child ∧ child < count := by
  rw [childNumbers, List.mem_filter, List.mem_range'_1, decide_eq_true_eq] at h
  omega

/-- Node `i` and everything below it. -/
def grow (count : Nat) (label : Nat → String) (i : Nat) : Tree :=
  let children := (childNumbers count i).attach.map (fun child => grow count label child.val)
  if children.isEmpty then Tree.leaf "identifier" (label i) else Tree.branch "block" children
termination_by count - i
decreasing_by
  have := lt_of_mem_childNumbers child.property
  omega

end Ternary

/-- The ternary tree of at least one node, with labels by number. -/
def Tree.ternary (size : Nat) (label : Nat → String) : Tree :=
  let count := max size 1
  let nodes := Array.ofFn (n := count) (fun i => Tree.leaf "identifier" (label i))
  (Ternary.settleAll count nodes)[0]?.getD Ternary.blank

/-- The same tree, built from the root down. -/
def Tree.ternaryFromRoot (size : Nat) (label : Nat → String) : Tree :=
  Ternary.grow (max size 1) label 0

end Likeness
