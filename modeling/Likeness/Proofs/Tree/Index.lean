import Likeness.Proofs.EditDistance.Positions
import Likeness.Proofs.Tree.Walk

/-!
# Every walk agrees with the recursion

The walks that keep their own stack list, count and check the nodes of a tree as the recursive
definitions do.  In particular the nodes of a subtree take consecutive places in the post-order, from
the leftmost leaf on, and its root the last of them.

**Main statements.**
* `Index.node?_subtree`: the positions of a subtree.
* `Tree.walks_follow_recursion`: all walks at once.
-/

namespace Likeness

namespace Index

theorem node?_succ (tree : Tree) (k : Nat) : (ofTree tree).node? (k + 1) = tree.postorder[k]? := by
  rw [node?, ← Array.getElem?_toList, nodes_ofTree]

/-- The nodes of a subtree stand next to each other, and its root is the last of them. -/
theorem node?_subtree (tree : Tree) {k : Nat} (pos : 1 ≤ k) (le : k ≤ tree.size) :
    tree.leftmostAt k + (tree.nodeAt k).size = k + 1 ∧
      (List.range' (tree.leftmostAt k) (tree.nodeAt k).size).map (ofTree tree).node? =
        (tree.nodeAt k).postorder.map some := by
  have there := node?_ofTree tree pos le
  obtain ⟨k, rfl⟩ := Nat.exists_eq_add_of_le' pos
  rw [node?_succ] at there
  obtain ⟨before, after, listed, place⟩ := Tree.exists_postorder_eq there
  have leaf : tree.leftmostAt (k + 1) = before.length + 1 := by
    rw [Tree.leftmostAt]
    omega
  rw [leaf]
  refine ⟨by omega, List.ext_getElem (by simp [Tree.length_postorder]) fun m _ inside => ?_⟩
  rw [List.length_map] at inside
  rw [List.getElem_map, List.getElem_map, List.getElem_range', Nat.one_mul, Nat.add_right_comm,
    node?_succ, listed, List.getElem?_append_right (Nat.le_add_right _ _),
    Nat.add_sub_cancel_left, List.getElem?_append_left inside, List.getElem?_eq_getElem inside]

end Index

/-- The walks list the nodes of a tree in the post-order and the pre-order of the recursion, their
number is the length of both, and the depth is the height.

For every position the index finds a node and its leftmost leaf.  The positions from the leaf on, as
many as the subtree of the node has nodes, hold these nodes in post-order, and the last one is that
of the node itself.

A tree has a flaw exactly if one of its nodes has no kind, and then the least position of such a node
is named. -/
theorem Tree.walks_follow_recursion (tree : Tree) :
    tree.finished = tree.postorder ∧ (Index.ofTree tree).nodes.toList = tree.postorder ∧
    tree.nodes = tree.preorder ∧
    tree.count = tree.postorder.length ∧ tree.count = tree.preorder.length ∧
    tree.depth = tree.height ∧
    (∀ k, 1 ≤ k → k ≤ tree.count → ∃ node leaf,
      (Index.ofTree tree).node? k = some node ∧ (Index.ofTree tree).leftmost? k = some leaf ∧
      leaf + node.count = k + 1 ∧
      (List.range' leaf node.count).map (Index.ofTree tree).node? = node.postorder.map some) ∧
    (tree.flaw? = none ↔ ∀ node ∈ tree.postorder, node.kind ≠ "") ∧
    ∀ message, tree.flaw? = some message ↔ ∃ k, IsLeast tree.unnamedPositions k ∧
      message = "node at post-order position " ++ toString k ++ " has an empty type" := by
  refine ⟨tree.finished_eq, Index.nodes_ofTree tree, tree.nodes_eq, ?_, ?_, tree.depth_eq, ?_,
    flaw?_eq_none_iff, fun _ => flaw?_eq_some_iff⟩
  · rw [count_eq, length_postorder]
  · rw [count_eq, length_preorder]
  · intro k pos le
    rw [count_eq] at le
    obtain ⟨place, subtree⟩ := Index.node?_subtree tree pos le
    rw [← count_eq] at place subtree
    exact ⟨_, _, Index.node?_ofTree tree pos le, Index.leftmost?_ofTree tree pos le, place,
      subtree⟩

namespace Tree

/-- A branch of four nodes, of which the third one has no kind. -/
def halfNamed : Tree :=
  .branch "d" [.leaf "a" "", .branch "" [.leaf "b" ""]]

/-- The branch is followed by one more node without a kind. -/
def unfinished : Tree :=
  .branch "f" [halfNamed, .leaf "" "e"]

theorem isLeast_unnamedPositions_unfinished : IsLeast unfinished.unnamedPositions 3 := by
  refine ⟨⟨2, .branch "" [.leaf "b" ""], rfl, rfl, rfl⟩, ?_⟩
  rintro _ ⟨i, node, rfl, there, unnamed⟩
  match i with
  | 0 | 1 =>
      cases there
      exact absurd unnamed (by decide)
  | i + 2 => omega

theorem walks_follow_recursion_unfinished :
    (1 ≤ 4 ∧ 4 ≤ unfinished.count) ∧ (Index.ofTree unfinished).leftmost? 4 = some 1 ∧
    IsLeast unfinished.unnamedPositions 3 ∧
    unfinished.flaw? = some "node at post-order position 3 has an empty type" := by
  have counts : unfinished.count = 6 ∧ halfNamed.count = 4 := by
    rw [count_eq, count_eq]
    decide
  have least := isLeast_unnamedPositions_unfinished
  obtain ⟨-, -, -, -, -, -, subtree, -, flaw⟩ := walks_follow_recursion unfinished
  obtain ⟨node, leaf, found, leftmost, place, -⟩ := subtree 4 (by decide) (by omega)
  rw [Index.node?_succ] at found
  obtain rfl : halfNamed = node := Option.some.inj found
  obtain rfl : leaf = 1 := by omega
  exact ⟨⟨by decide, by omega⟩, leftmost, least, (flaw _).2 ⟨3, least, rfl⟩⟩

end Tree
end Likeness
