import Likeness.Tree.Walk

/-!
# Post-order index of a tree

The edit distance addresses the nodes of a tree by their post-order positions
`1, …, size` and asks, for each position, for the leftmost leaf below that node.  The
nodes of the subtree rooted at position `k` are then those at `leftmost k, …, k`.

`Index.ofTree` fills both tables in one walk with an explicit stack: the first child that
finishes below a suspended node fixes the leftmost leaf of that node, and a node that
finishes without a child is its own leftmost leaf.
-/

-- sums start from the zero of the core library
attribute [local instance (high)] Zero.ofOfNat0

namespace Likeness

/-- The nodes of a tree in post-order, and the position of the leftmost leaf below each. -/
structure Index where
  nodes : Array Tree
  leaves : Array Nat
deriving Inhabited

namespace Index

/-- A suspended node, and the leftmost leaf below it once a child has finished. -/
structure Frame where
  node : Tree
  pending : List Tree
  leftmost? : Option Nat

namespace Frame

/-- A node of which no child has been visited. -/
def ofTree (tree : Tree) : Frame :=
  ⟨tree, tree.children, none⟩

/-- One for the node and two for each node that waits below it. -/
def weight (frame : Frame) : Nat :=
  2 * Forest.size frame.pending + 1

/-- Tells the frame that a child with this leftmost leaf has finished. -/
def learn (frame : Frame) (leaf : Nat) : Frame :=
  { frame with leftmost? := some (frame.leftmost?.getD leaf) }

@[simp] theorem weight_learn (frame : Frame) (leaf : Nat) :
    (frame.learn leaf).weight = frame.weight := rfl

end Frame

def weight (stack : List Frame) : Nat :=
  (stack.map Frame.weight).sum

/-- Tells the topmost frame that a child with this leftmost leaf has finished. -/
def learn (leaf : Nat) : List Frame → List Frame
  | [] => []
  | frame :: rest => frame.learn leaf :: rest

@[simp] theorem weight_learn (leaf : Nat) (stack : List Frame) :
    weight (learn leaf stack) = weight stack := by
  cases stack with
  | nil => rfl
  | cons frame rest => simp [weight, learn]

/-- Adds a finished node and its leftmost leaf. -/
def push (index : Index) (node : Tree) (leaf : Nat) : Index :=
  ⟨index.nodes.push node, index.leaves.push leaf⟩

/-- The index after the nodes on the stack and below have finished. -/
def extend (index : Index) : List Frame → Index
  | [] => index
  | ⟨node, [], leftmost?⟩ :: rest =>
      let leaf := leftmost?.getD (index.nodes.size + 1)
      extend (index.push node leaf) (learn leaf rest)
  | ⟨node, child :: pending, leftmost?⟩ :: rest =>
      extend index (Frame.ofTree child :: ⟨node, pending, leftmost?⟩ :: rest)
termination_by stack => weight stack
decreasing_by
  · rw [weight_learn]
    simp only [weight, Frame.weight, List.map_cons, List.sum_cons]
    omega
  · simp only [weight, Frame.weight, Frame.ofTree, List.map_cons, List.sum_cons,
      Forest.size_cons, child.size_eq]
    omega

def ofTree (tree : Tree) : Index :=
  extend ⟨#[], #[]⟩ [Frame.ofTree tree]

def size (index : Index) : Nat :=
  index.nodes.size

/-- An index without nodes; that of a tree never is. -/
def isEmpty (index : Index) : Bool :=
  index.nodes.isEmpty

/-- The node at a position, counted from one. -/
@[inline] def node? (index : Index) : Nat → Option Tree
  | 0 => none
  | k + 1 => index.nodes[k]?

/-- Position of the leftmost leaf below the node at a position. -/
@[inline] def leftmost? (index : Index) : Nat → Option Nat
  | 0 => none
  | k + 1 => index.leaves[k]?

end Index

end Likeness
