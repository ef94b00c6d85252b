import Likeness.Proofs.EditDistance.Metric
import Likeness.Tree.Ternary
import Mathlib.Algebra.BigOperators.Group.Finset.Piecewise

/-!
# Ternary trees from both ends

The array in which a ternary tree is built from the back holds, at each moment, the nodes that have
not been finished: node `k` has the label of its number, and below it stand those of its children
that have been finished, the last one first.  Each finished child is the tree that grows from its
number, so at the end the root is what grows from number zero.

**Main statements.**
* `Ternary.Waiting.settle`: one node more is finished.
* `Ternary.settleAll_eq`: what the root is in the end.
* `Ternary.size_grow_zero`: how many nodes there are.
-/

namespace Likeness
namespace Ternary

section Numbers

variable {count i k : Nat}

theorem mem_childNumbers_iff :
    i ∈ childNumbers count k ↔ 3 * k + 1 ≤ i ∧ i ≤ 3 * k + 3 ∧ i < count := by
  rw [childNumbers, List.mem_filter, List.mem_range'_1, decide_eq_true_eq]
  omega

theorem mem_childNumbers_iff_parent (positive : 0 < i) (inside : i < count) :
    i ∈ childNumbers count k ↔ k = parent i := by
  rw [mem_childNumbers_iff, parent]
  omega

theorem childNumbers_eq_nil_iff : childNumbers count k = [] ↔ count ≤ 3 * k + 1 := by
  rw [List.eq_nil_iff_forall_not_mem]
  constructor
  · intro none
    have first := none (3 * k + 1)
    rw [mem_childNumbers_iff] at first
    omega
  · intro beyond child mem
    rw [mem_childNumbers_iff] at mem
    omega

theorem pairwise_childNumbers : (childNumbers count k).Pairwise (· < ·) :=
  List.Pairwise.filter _ List.pairwise_lt_range'

/-- In ascending order a number comes right before those above it. -/
theorem filter_le_eq {l : List Nat} (ascending : l.Pairwise (· < ·)) :
    l.filter (i ≤ ·) = (if i ∈ l then [i] else []) ++ l.filter (i + 1 ≤ ·) := by
  induction l with
  | nil => rfl
  | cons first rest ih =>
      obtain ⟨above, ascending⟩ := List.pairwise_cons.1 ascending
      rcases Nat.lt_trichotomy first i with less | rfl | greater
      · rw [List.filter_cons_of_neg (by simpa using less),
          List.filter_cons_of_neg (by simp; omega), ih ascending]
        simp [Nat.ne_of_gt less]
      · have absent : first ∉ rest := fun mem => Nat.lt_irrefl _ (above first mem)
        rw [List.filter_cons_of_pos (by simp), List.filter_cons_of_neg (by simp), ih ascending,
          if_neg absent, if_pos List.mem_cons_self]
        rfl
      · have absent : i ∉ rest := fun mem => Nat.lt_asymm greater (above i mem)
        rw [List.filter_cons_of_pos (by simp; omega), List.filter_cons_of_pos (by simp; omega),
          ih ascending]
        simp [absent, Nat.ne_of_lt greater]

end Numbers

section Growing

variable {count : Nat} {label : Nat → String} {i : Nat}

theorem grow_eq :
    grow count label i =
      if count ≤ 3 * i + 1 then Tree.leaf "identifier" (label i)
      else Tree.branch "block" ((childNumbers count i).map (grow count label)) := by
  rw [grow, List.attach_map_val (f := grow count label)]
  simp [childNumbers_eq_nil_iff]

end Growing

section Waiting

variable (count : Nat) (label : Nat → String)

/-- The children of node `k` from number `i` on, the last one first. -/
def finishedChildren (i k : Nat) : List Tree :=
  (((childNumbers count k).filter (i ≤ ·)).map (grow count label)).reverse

/-- Node `k` when all nodes from number `i` on have been finished. -/
def waitingNode (i k : Nat) : Tree :=
  { Tree.leaf "identifier" (label k) with children := finishedChildren count label i k }

/-- The nodes from number `i` on have been finished and handed over. -/
def Waiting (nodes : Array Tree) (i : Nat) : Prop :=
  ∀ k, k < i → nodes[k]? = some (waitingNode count label i k)

variable {count : Nat} {label : Nat → String} {i k : Nat}

theorem finishedChildren_count : finishedChildren count label count k = [] := by
  have none : (childNumbers count k).filter (count ≤ ·) = [] := by
    rw [List.filter_eq_nil_iff]
    intro child mem
    have inside := (lt_of_mem_childNumbers mem).2
    simpa using inside
  rw [finishedChildren, none]
  rfl

/-- When a node is finished, it comes behind the children that its parent already has. -/
theorem finishedChildren_eq (positive : 0 < i) (inside : i < count) :
    finishedChildren count label i k =
      finishedChildren count label (i + 1) k ++
        if k = parent i then [grow count label i] else [] := by
  rw [finishedChildren, filter_le_eq pairwise_childNumbers, List.map_append, List.reverse_append,
    finishedChildren]
  simp only [mem_childNumbers_iff_parent positive inside]
  congr 1
  split <;> rfl

/-- All children of a node have been finished before it is its turn. -/
theorem finishedChildren_succ :
    finishedChildren count label (i + 1) i =
      ((childNumbers count i).map (grow count label)).reverse := by
  have all : (childNumbers count i).filter (i + 1 ≤ ·) = childNumbers count i := by
    rw [List.filter_eq_self]
    intro child mem
    exact decide_eq_true (lt_of_mem_childNumbers mem).1
  rw [finishedChildren, all]

theorem finish_waitingNode :
    finish (waitingNode count label (i + 1) i) = grow count label i := by
  rw [finish, grow_eq, waitingNode, finishedChildren_succ]
  by_cases beyond : count ≤ 3 * i + 1
  · rw [if_pos beyond, childNumbers_eq_nil_iff.2 beyond]
    rfl
  · have some : childNumbers count i ≠ [] := fun none => beyond (childNumbers_eq_nil_iff.1 none)
    rw [if_neg beyond, if_neg (by simpa using some)]
    simp [Tree.leaf, Tree.branch]

namespace Waiting

variable {nodes : Array Tree}

theorem start (count : Nat) (label : Nat → String) :
    Waiting count label
      (Array.ofFn (n := count) (fun i => Tree.leaf "identifier" (label i))) count := by
  intro k inside
  rw [waitingNode, finishedChildren_count, Array.getElem?_ofFn, dif_pos inside]
  rfl

/-- A node is finished and handed over to its parent, and the others wait as before. -/
theorem settle (h : Waiting count label nodes (i + 1)) (positive : 0 < i) (inside : i < count) :
    Waiting count label (Ternary.settle nodes i) i := by
  intro k less
  have there := h i (Nat.lt_succ_self i)
  have before := h k (Nat.lt_succ_of_lt less)
  have other : (nodes.setIfInBounds i blank)[k]? = nodes[k]? :=
    Array.getElem?_setIfInBounds_ne (Nat.ne_of_gt less)
  rw [Ternary.settle, there, Option.getD_some, finish_waitingNode, if_neg (Nat.ne_of_gt positive),
    Array.getElem?_modify, other, before]
  by_cases above : parent i = k
  · rw [if_pos above, Option.map_some, waitingNode, waitingNode,
      finishedChildren_eq positive inside, if_pos above.symm]
    rfl
  · rw [if_neg above, waitingNode, waitingNode, finishedChildren_eq positive inside,
      if_neg (Ne.symm above), List.append_nil]

/-- By induction on the nodes that wait; the last one is the root, which has no parent. -/
theorem settleAll (h : Waiting count label nodes i) (positive : 0 < i) (inside : i ≤ count) :
    (Ternary.settleAll i nodes)[0]? = some (grow count label 0) := by
  induction i, positive using Nat.le_induction generalizing nodes with
  | base =>
      have there := h 0 Nat.one_pos
      obtain ⟨bound, _⟩ := Array.getElem?_eq_some_iff.1 there
      rw [Ternary.settleAll, Ternary.settleAll, Ternary.settle, there, Option.getD_some,
        finish_waitingNode, if_pos rfl, Array.getElem?_setIfInBounds_self_of_lt bound]
  | succ i positive ih =>
      rw [Ternary.settleAll]
      exact ih (h.settle positive inside) (Nat.le_of_succ_le inside)

end Waiting

end Waiting

section Sizes

variable {count : Nat} {label : Nat → String} {i k : Nat}

theorem size_waitingNode :
    (waitingNode count label i k).size = Forest.size (finishedChildren count label i k) + 1 :=
  Tree.size_eq _

theorem size_grow :
    (grow count label i).size = (waitingNode count label (i + 1) i).size := by
  rw [← finish_waitingNode, finish]
  split
  · rfl
  · rw [Tree.size_eq, Tree.size_eq, Forest.size_reverse]

theorem size_waitingNode_eq (positive : 0 < i) (inside : i < count) :
    (waitingNode count label i k).size =
      (waitingNode count label (i + 1) k).size +
        if k = parent i then (grow count label i).size else 0 := by
  rw [size_waitingNode, size_waitingNode, finishedChildren_eq positive inside, Forest.size_append]
  split
  · rw [Forest.size_cons, Forest.size_nil]
    omega
  · rw [Forest.size_nil]

/-- Handing a node over to its parent changes no number of nodes. -/
theorem sum_size_waitingNode_succ (positive : 0 < i) (inside : i < count) :
    ∑ k ∈ Finset.range (i + 1), (waitingNode count label (i + 1) k).size =
      ∑ k ∈ Finset.range i, (waitingNode count label i k).size := by
  have above : parent i ∈ Finset.range i := by
    rw [Finset.mem_range, parent]
    omega
  rw [Finset.sum_range_succ, ← size_grow]
  simp only [size_waitingNode_eq positive inside]
  rw [Finset.sum_add_distrib, Finset.sum_ite_eq', if_pos above]

theorem sum_size_waitingNode (positive : 0 < i) (inside : i ≤ count) :
    ∑ k ∈ Finset.range i, (waitingNode count label i k).size = (grow count label 0).size := by
  induction i, positive using Nat.le_induction with
  | base => rw [Finset.sum_range_one, size_grow]
  | succ i positive ih =>
      rw [sum_size_waitingNode_succ positive inside, ih (Nat.le_of_succ_le inside)]

/-- At the beginning every node stands for itself. -/
theorem size_grow_zero (positive : 0 < count) : (grow count label 0).size = count := by
  rw [← sum_size_waitingNode positive (Nat.le_refl count)]
  simp [size_waitingNode, finishedChildren_count]

end Sizes

end Ternary

/-- Building a ternary tree from the back in one array and building it from the root down come to the
same tree, whose root is node `0`.  A node without a number `3 i + 1` below the number of nodes is a
leaf with the label of its number, and any other one is a block without a text over the nodes
`3 i + 1`, `3 i + 2` and `3 i + 3`, as far as they are there.  So there are as many nodes as asked
for, and one if none was. -/
theorem Tree.ternary_eq (size : Nat) (label : Nat → String) :
    let count := max size 1
    let node := Ternary.grow count label
    Tree.ternary size label = node 0 ∧ Tree.ternaryFromRoot size label = node 0 ∧
    (∀ i, node i =
      if 3 * i + 1 < count then
        Tree.branch "block" (([3 * i + 1, 3 * i + 2, 3 * i + 3].filter (· < count)).map node)
      else Tree.leaf "identifier" (label i)) ∧
    (Tree.ternary size label).count = count := by
  intro count node
  have positive : 0 < count := Nat.lt_of_lt_of_le Nat.one_pos (Nat.le_max_right size 1)
  have root : Tree.ternary size label = node 0 := by
    have settled := (Ternary.Waiting.start count label).settleAll positive (Nat.le_refl count)
    rw [Tree.ternary, settled, Option.getD_some]
  refine ⟨root, rfl, ?_, ?_⟩
  · intro i
    by_cases more : 3 * i + 1 < count
    · rw [if_pos more]
      exact Ternary.grow_eq.trans (if_neg (Nat.not_le.2 more))
    · rw [if_neg more]
      exact Ternary.grow_eq.trans (if_pos (Nat.le_of_not_lt more))
  · rw [root, Tree.count_eq]
    exact Ternary.size_grow_zero positive

end Likeness
