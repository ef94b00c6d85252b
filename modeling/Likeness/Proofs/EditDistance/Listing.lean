import Likeness.Tree.Index
import Likeness.Proofs.EditDistance.Outline

/-!
# What the post-order index says

The index of a tree lists its outline: the position of a node is the size of the initial part
of the outline that ends with this node, and the leftmost leaf below a node comes right after
everything that stands before the node.  The walk that fills the index keeps this true of the
part of the tree that has finished.

**Main statements.**
* `Index.Lists.read`: an index that lists a forest has, at the size of each initial part, its
  last root and the leftmost leaf below it.
* `Index.lists_ofTree`: the index of a tree lists the outline of the tree.
* `Index.nodes_ofTree`: its nodes are those of the tree in post-order.
-/

namespace Likeness

namespace Grove.Initial

/-- There is an initial part of each size. -/
theorem exists_of_size {α : Type} (X : Grove α) {k : Nat} (le : k ≤ X.size) :
    ∃ Y, Initial Y X ∧ Y.size = k := by
  match X with
  | nil => exact ⟨nil, refl, (Nat.le_zero.1 le).symm⟩
  | node W p U =>
      by_cases eq : k = (node W p U).size
      · exact ⟨node W p U, refl, eq.symm⟩
      · obtain ⟨Y, hY, hk⟩ := exists_of_size (W ++ U) (k := k)
          (by simp only [size_append, size_node] at le eq ⊢; omega)
        exact ⟨Y, step hY, hk⟩
termination_by X.size
decreasing_by
  simp only [size_append, size_node]
  omega

/-- There is an initial part of each size, with a last root unless the size is zero. -/
theorem exists_node_of_size {α : Type} (X : Grove α) {k : Nat} (pos : 1 ≤ k)
    (le : k ≤ X.size) : ∃ W p U, Initial (node W p U) X ∧ (node W p U).size = k := by
  obtain ⟨Y, hY, hk⟩ := exists_of_size X le
  cases Y with
  | nil =>
      rw [size_nil] at hk
      omega
  | node W p U => exact ⟨W, p, U, hY, hk⟩

end Grove.Initial

namespace Index

open Grove

section Listing

/-- The nodes of a forest have finished, one after the other. -/
inductive Lists : Index → Grove Label → Prop
  | nil : Lists ⟨#[], #[]⟩ nil
  | push {index : Index} {W U : Grove Label} (tree : Tree) :
      Lists index (W ++ U) → Lists (index.push tree (W.size + 1)) (node W tree.label U)

namespace Lists

variable {index : Index} {X : Grove Label}

theorem sizes (h : Lists index X) :
    index.nodes.size = X.size ∧ index.leaves.size = X.size := by
  induction h with
  | nil => exact ⟨rfl, rfl⟩
  | push tree _ ih =>
      simp only [Index.push, Array.size_push, size_node, size_append] at ih ⊢
      omega

theorem size_eq (h : Lists index X) : index.size = X.size :=
  h.sizes.1

/-- The last root of an initial part, and the leftmost leaf below it. -/
theorem read (h : Lists index X) {W U : Grove Label} {p : Label}
    (part : Initial (node W p U) X) :
    (∃ tree, index.node? (node W p U).size = some tree ∧ tree.label = p)
      ∧ index.leftmost? (node W p U).size = some (W.size + 1) := by
  induction h with
  | nil =>
      have le := part.size_le
      simp at le
  | @push index V S tree h ih =>
      have sizes := h.sizes
      simp only [size_append] at sizes
      cases part with
      | refl =>
          simp only [node?, leftmost?, size_node, Index.push]
          rw [← sizes.1, Array.getElem?_push_size, sizes.1, ← sizes.2, Array.getElem?_push_size]
          exact ⟨⟨tree, rfl, rfl⟩, rfl⟩
      | step part =>
          have lt := part.size_le
          simp only [size_append, size_node] at lt
          have ih := ih part
          simp only [node?, leftmost?, size_node, Index.push] at ih ⊢
          rw [Array.getElem?_push_lt (by omega), Array.getElem?_push_lt (by omega)]
          rw [Array.getElem?_eq_getElem (by omega), Array.getElem?_eq_getElem (by omega)] at ih
          exact ih

/-- There is a node at each position. -/
theorem exists_node (h : Lists index X) {k : Nat} (pos : 1 ≤ k) (le : k ≤ X.size) :
    ∃ tree, index.node? k = some tree := by
  obtain ⟨W, p, U, part, rfl⟩ := Initial.exists_node_of_size X pos le
  obtain ⟨⟨tree, found, -⟩, -⟩ := h.read part
  exact ⟨tree, found⟩

end Lists

end Listing

section Walk

/-- A suspended node finishes below the forest `U` of what has finished below it, and its
leftmost leaf is found right after `W`. -/
theorem extend_frame (pending : List Tree) {index : Index} {W U : Grove Label}
    (lists : Lists index (W ++ U)) (leftmost? : Option Nat)
    (first : leftmost?.getD ((W ++ U).size + 1) = W.size + 1) (tree : Tree)
    (rest : List Frame) :
    ∃ index', Lists index' (node W tree.label (U ++ Forest.outline pending))
      ∧ extend index (⟨tree, pending, leftmost?⟩ :: rest)
          = extend index' (learn (W.size + 1) rest) := by
  match pending with
  | [] =>
      refine ⟨index.push tree (W.size + 1), ?_, ?_⟩
      · rw [Forest.outline_nil, append_nil]
        exact Lists.push tree lists
      · rw [extend, lists.sizes.1, first]
  | child :: pending =>
      rw [extend, Frame.ofTree]
      obtain ⟨index₁, lists₁, h₁⟩ := extend_frame child.children (W := W ++ U) (U := nil)
        lists none rfl child (⟨tree, pending, leftmost?⟩ :: rest)
      rw [h₁, learn, Frame.learn, first]
      rw [nil_append, ← Grove.append_node] at lists₁
      obtain ⟨index₂, lists₂, h₂⟩ := extend_frame pending lists₁
        (some (W.size + 1)) rfl tree rest
      refine ⟨index₂, ?_, h₂⟩
      rw [Forest.outline_cons, Tree.outline_eq, ← append_assoc, Grove.append_node,
        Grove.append_nil]
      exact lists₂
termination_by Forest.size pending
decreasing_by
  · rw [Forest.size_cons, child.size_eq]
    omega
  · rw [Forest.size_cons, child.size_eq]
    omega

/-- The index of a tree lists its outline. -/
theorem lists_ofTree (tree : Tree) : Lists (ofTree tree) tree.outline := by
  obtain ⟨index, lists, h⟩ := extend_frame tree.children (W := nil) (U := nil) Lists.nil
    none rfl tree []
  rw [nil_append, ← Tree.outline_eq] at lists
  rw [ofTree, Frame.ofTree, h, learn, extend]
  exact lists

/-- The nodes on a stack and below, each after its children. -/
def remaining (stack : List Frame) : List Tree :=
  stack.flatMap (fun frame => Forest.postorder frame.pending ++ [frame.node])

theorem remaining_ofTree (tree : Tree) (stack : List Frame) :
    remaining (Frame.ofTree tree :: stack) = tree.postorder ++ remaining stack := by
  cases tree
  rw [remaining, List.flatMap_cons]
  rfl

theorem remaining_learn (leaf : Nat) (stack : List Frame) :
    remaining (learn leaf stack) = remaining stack := by
  cases stack <;> rfl

theorem nodes_extend (index : Index) (stack : List Frame) :
    (extend index stack).nodes.toList = index.nodes.toList ++ remaining stack := by
  fun_induction extend index stack with
  | case1 index => simp [remaining]
  | case2 index node leftmost? rest leaf ih =>
      rw [ih, remaining_learn]
      simp [push, remaining, Forest.postorder]
  | case3 index node leftmost? rest child pending ih =>
      rw [ih, remaining_ofTree]
      simp [remaining, Forest.postorder]

/-- The index of a tree has its nodes in post-order. -/
theorem nodes_ofTree (tree : Tree) : (ofTree tree).nodes.toList = tree.postorder := by
  rw [ofTree, nodes_extend, remaining_ofTree]
  simp [remaining]

end Walk

end Index

end Likeness
