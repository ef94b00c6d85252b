import Likeness.Tree.Document
import Mathlib.Data.List.Basic
import Mathlib.Order.Bounds.Basic

/-!
# What a walk comes across

A walk that keeps its own stack comes across the nodes of a tree in the order that a recursion
would.  So it lists them in pre-order or in post-order, counts each of them once and finds the height
of the tree.  A tree has no flaw exactly if each of its nodes has a kind, and otherwise the first node
without one is named.  The nodes of a tree are its root and those of its children.

**Main statements.**
* `Walk.foldPreorder_eq`: visiting nodes is a fold over the trees on the stack in pre-order.
* `Walk.postorder_eq`: what has finished when the walk is over.
* `Walk.levels_tagged`: the levels below a node.
* `Tree.nodes_eq`, `Tree.finished_eq`, `Tree.count_eq`, `Tree.depth_eq`: walks from the root.
* `Tree.flaw?_eq_none_iff`, `Tree.flaw?_eq_some_iff`: what is wrong with a tree.
-/

namespace Likeness

theorem Forest.preorder_append (left right : List Tree) :
    Forest.preorder (left ++ right) = Forest.preorder left ++ Forest.preorder right := by
  induction left with
  | nil => rw [Forest.preorder, List.nil_append, List.nil_append]
  | cons tree rest ih =>
      rw [List.cons_append, Forest.preorder, Forest.preorder, ih, List.append_assoc]

namespace Walk

section Visiting

/-- A walk in pre-order is a fold over the trees on the stack in pre-order. -/
theorem foldPreorder_eq {α : Type} (visit : α → Tree → α) (seen : α) (stack : List Tree) :
    foldPreorder visit seen stack = (Forest.preorder stack).foldl visit seen := by
  fun_induction foldPreorder visit seen stack with
  | case1 seen => rw [Forest.preorder, List.foldl_nil]
  | case2 seen tree rest ih =>
      cases tree
      rw [ih, Forest.preorder_append, Forest.preorder, Tree.preorder, List.cons_append,
        List.foldl_cons]

end Visiting

section Finishing

/-- The nodes on a stack and below, each after its children. -/
def remaining (stack : List Suspended) : List Tree :=
  stack.flatMap (fun frame => Forest.postorder frame.pending ++ [frame.node])

theorem remaining_ofTree (tree : Tree) (stack : List Suspended) :
    remaining (Suspended.ofTree tree :: stack) = tree.postorder ++ remaining stack := by
  cases tree
  rw [remaining, List.flatMap_cons]
  rfl

theorem postorder_eq (done : List Tree) (stack : List Suspended) :
    postorder done stack = done.reverse ++ remaining stack := by
  fun_induction postorder done stack with
  | case1 done => simp [remaining]
  | case2 done node rest ih => simp [ih, remaining, Forest.postorder]
  | case3 done node child pending rest ih =>
      rw [ih, remaining_ofTree]
      simp [remaining, Forest.postorder]

end Finishing

section Levels

mutual

/-- A tree reaches as many levels below `level` as its height says. -/
theorem levels_tree (deepest level : Nat) (tree : Tree) (rest : List (Tree × Nat)) :
    levels deepest ((tree, level + 1) :: rest) =
      levels (max deepest (level + tree.height)) rest := by
  cases tree with
  | mk kind text start? stop? children =>
      rw [levels, levels_tagged deepest (level + 1) children rest, Tree.height,
        Nat.add_right_comm, Nat.add_assoc]

/-- The trees below a node at `level`, which has been visited. -/
theorem levels_tagged (deepest level : Nat) (forest : List Tree) (rest : List (Tree × Nat)) :
    levels (max deepest level) (tagged (level + 1) forest ++ rest) =
      levels (max deepest (level + Forest.height forest)) rest := by
  cases forest with
  | nil =>
      rw [Forest.height, Nat.add_zero]
      rfl
  | cons tree forest =>
      have first := levels_tree (max deepest level) level tree (tagged (level + 1) forest ++ rest)
      rw [Nat.max_right_comm] at first
      rw [Forest.height, ← Nat.add_max_add_left, ← Nat.max_assoc]
      exact first.trans (levels_tagged (max deepest (level + tree.height)) level forest rest)

end

end Levels

end Walk

section Nodes

theorem Forest.mem_preorder {node tree : Tree} {forest : List Tree} (mem : tree ∈ forest)
    (h : node ∈ tree.preorder) : node ∈ Forest.preorder forest := by
  induction forest with
  | nil => cases mem
  | cons first rest ih =>
      rw [Forest.preorder, List.mem_append]
      rcases List.mem_cons.1 mem with rfl | mem
      · exact Or.inl h
      · exact Or.inr (ih mem)

theorem Tree.mem_preorder_self (tree : Tree) : tree ∈ tree.preorder := by
  cases tree
  rw [Tree.preorder]
  exact List.mem_cons_self

theorem Tree.mem_preorder_of_mem {node child tree : Tree} (mem : child ∈ tree.children)
    (h : node ∈ child.preorder) : node ∈ tree.preorder := by
  cases tree
  rw [Tree.preorder]
  exact List.mem_cons_of_mem _ (Forest.mem_preorder mem h)

end Nodes

namespace Tree

theorem finished_eq (tree : Tree) : tree.finished = tree.postorder := by
  rw [finished, Walk.postorder_eq, Walk.remaining_ofTree]
  simp [Walk.remaining]

theorem nodes_eq (tree : Tree) : tree.nodes = tree.preorder := by
  rw [nodes, Walk.foldPreorder_eq, List.foldl_flip_cons_eq_append]
  simp [Forest.preorder]

theorem count_eq (tree : Tree) : tree.count = tree.size := by
  rw [count, Walk.foldPreorder_eq, List.foldl_add_const, Forest.length_preorder,
    Forest.size_cons, Forest.size_nil]
  omega

theorem depth_eq (tree : Tree) : tree.depth = tree.height := by
  rw [depth, Walk.levels_tree, Walk.levels, Nat.zero_max, Nat.zero_add]

/-- The post-order positions, from one, of the nodes that have no kind. -/
def unnamedPositions (tree : Tree) : Set Nat :=
  {k | ∃ i node, k = i + 1 ∧ tree.postorder[i]? = some node ∧ node.kind = ""}

theorem unnamed?_eq_some_iff {tree : Tree} {k : Nat} :
    tree.unnamed? = some k ↔ IsLeast tree.unnamedPositions k := by
  simp only [unnamed?, finished_eq, Option.map_eq_some_iff, List.findIdx?_eq_some_iff_getElem,
    String.isEmpty_iff]
  constructor
  · rintro ⟨i, ⟨inside, unnamed, before⟩, rfl⟩
    refine ⟨⟨i, _, rfl, List.getElem?_eq_getElem inside, unnamed⟩, ?_⟩
    rintro _ ⟨j, node, rfl, there, none⟩
    obtain ⟨_, rfl⟩ := List.getElem?_eq_some_iff.1 there
    by_contra less
    exact before j (by omega) none
  · rintro ⟨⟨i, node, rfl, there, unnamed⟩, least⟩
    obtain ⟨inside, rfl⟩ := List.getElem?_eq_some_iff.1 there
    refine ⟨i, ⟨inside, unnamed, ?_⟩, rfl⟩
    intro j less none
    have le := least ⟨j, _, rfl, List.getElem?_eq_getElem (less.trans inside), none⟩
    omega

theorem flaw?_eq_none_iff {tree : Tree} :
    tree.flaw? = none ↔ ∀ node ∈ tree.postorder, node.kind ≠ "" := by
  simp [flaw?, unnamed?, finished_eq]

theorem flaw?_eq_some_iff {tree : Tree} {message : String} :
    tree.flaw? = some message ↔ ∃ k, IsLeast tree.unnamedPositions k ∧
      message = "node at post-order position " ++ toString k ++ " has an empty type" := by
  simp only [flaw?, Option.map_eq_some_iff, unnamed?_eq_some_iff, eq_comm (b := message)]

end Tree
end Likeness
