import Likeness.Tree

/-!
# Walks with an explicit stack

Trees can be nested as deep as a source text is long, so the walks below keep the nodes
they still have to visit in a list of their own and never recurse into a child.

* `Walk.foldPreorder` visits every node before its children; `Tree.count`,
  `Tree.nodes` and `Tree.countKinds` are folds of it.
* `Walk.levels` finds the deepest level, as `Tree.depth`.
* `Walk.postorder` visits every node after its children with a stack of suspended
  nodes; `Tree.finished` lists them and `Tree.unnamed?` looks for a node without a kind.

**Termination.**  A pre-order stack loses one node with every visit.  A suspended node
weighs one, and a tree that waits below it weighs two for each of its nodes, so that both
a descent and a return make the stack lighter.
-/

-- sums start from the zero of the core library
attribute [local instance (high)] Zero.ofOfNat0

namespace Likeness

namespace Walk

/-- Visits the nodes of the trees on the stack, the first tree first, each node before its
children. -/
def foldPreorder {α : Type} (visit : α → Tree → α) (seen : α) : List Tree → α
  | [] => seen
  | tree :: rest => foldPreorder visit (visit seen tree) (tree.children ++ rest)
termination_by stack => Forest.size stack
decreasing_by
  rw [Forest.size_append, Forest.size_cons, tree.size_eq]
  omega

/-- Number of nodes of the trees on a stack of tagged trees. -/
def taggedSize {α : Type} (stack : List (Tree × α)) : Nat :=
  Forest.size (stack.map Prod.fst)

/-- The trees of a forest, all with one tag. -/
def tagged {α : Type} (tag : α) (forest : List Tree) : List (Tree × α) :=
  forest.map (fun tree => (tree, tag))

@[simp] theorem taggedSize_cons {α : Type} (tree : Tree) (tag : α)
    (stack : List (Tree × α)) :
    taggedSize ((tree, tag) :: stack) = tree.size + taggedSize stack := by
  simp [taggedSize]

/-- A tag changes no size. -/
@[simp] theorem taggedSize_tagged_append {α : Type} (tag : α) (forest : List Tree)
    (stack : List (Tree × α)) :
    taggedSize (tagged tag forest ++ stack) = Forest.size forest + taggedSize stack := by
  have h : (Prod.fst ∘ fun tree : Tree => (tree, tag)) = id := rfl
  simp [taggedSize, tagged, h]

@[simp] theorem taggedSize_reverse_tagged_append {α : Type} (tag : α) (forest : List Tree)
    (stack : List (Tree × α)) :
    taggedSize ((tagged tag forest).reverse ++ stack) =
      Forest.size forest + taggedSize stack := by
  have h : (tagged tag forest).reverse = tagged tag forest.reverse := List.map_reverse.symm
  rw [h, taggedSize_tagged_append, Forest.size_reverse]

/-- The largest level that a node of a tree on the stack stands at, or `deepest`.  Each tree
is tagged with the level of its root. -/
def levels (deepest : Nat) : List (Tree × Nat) → Nat
  | [] => deepest
  | (tree, level) :: rest =>
      levels (max deepest level) (tagged (level + 1) tree.children ++ rest)
termination_by stack => taggedSize stack
decreasing_by
  rw [taggedSize_tagged_append, taggedSize_cons, tree.size_eq]
  omega

/-- A node whose children are being visited: those that wait are the pending ones. -/
structure Suspended where
  node : Tree
  pending : List Tree

namespace Suspended

/-- A node of which no child has been visited. -/
def ofTree (tree : Tree) : Suspended :=
  ⟨tree, tree.children⟩

/-- One for the node and two for each node that waits below it. -/
def weight (frame : Suspended) : Nat :=
  2 * Forest.size frame.pending + 1

end Suspended

/-- Weight of a stack of suspended nodes. -/
def weight (stack : List Suspended) : Nat :=
  (stack.map Suspended.weight).sum

/-- The nodes on the stack and below, each after its children, appended to those already
finished (`done`, last first). -/
def postorder (done : List Tree) : List Suspended → List Tree
  | [] => done.reverse
  | ⟨node, []⟩ :: rest => postorder (node :: done) rest
  | ⟨node, child :: pending⟩ :: rest =>
      postorder done (Suspended.ofTree child :: ⟨node, pending⟩ :: rest)
termination_by stack => weight stack
decreasing_by
  · simp only [weight, Suspended.weight, List.map_cons, List.sum_cons]
    omega
  · simp only [weight, Suspended.weight, Suspended.ofTree, List.map_cons, List.sum_cons,
      Forest.size_cons, child.size_eq]
    omega

end Walk

namespace Tree

/-- Number of nodes, counted by a walk. -/
def count (tree : Tree) : Nat :=
  Walk.foldPreorder (fun seen _ => seen + 1) 0 [tree]

/-- All nodes, each before its children. -/
def nodes (tree : Tree) : List Tree :=
  (Walk.foldPreorder (fun seen node => node :: seen) [] [tree]).reverse

/-- All nodes, each after its children. -/
def finished (tree : Tree) : List Tree :=
  Walk.postorder [] [Walk.Suspended.ofTree tree]

def depth (tree : Tree) : Nat :=
  Walk.levels 0 [(tree, 1)]

/-- Number of nodes whose kind is listed. -/
def countKinds (tree : Tree) (kinds : List String) : Nat :=
  Walk.foldPreorder
    (fun seen node => if kinds.contains node.kind then seen + 1 else seen) 0 [tree]

/-- Post-order position, from one, of the first node that has no kind. -/
def unnamed? (tree : Tree) : Option Nat :=
  (tree.finished.findIdx? (fun node => node.kind.isEmpty)).map (· + 1)

end Tree

/-- Number of nodes of a tree that may be absent. -/
def countNodes (tree? : Option Tree) : Nat :=
  tree?.elim 0 Tree.count

end Likeness
