import Likeness.Instances

/-!
# Syntax trees

A parsed source text is a tree of nodes.  A node has a kind (the grammar symbol it
stands for), the piece of text it covers, possibly the places where that piece starts
and stops, and its children from left to right.

This module holds the type, the usual ways to build a tree, and the recursive measures
and orders (`size`, `height`, `preorder`, `postorder`) that every later module refers to.
A list of trees is called a forest; each measure of a tree goes with one of a forest.

**Main statements.**
* `Tree.size_pos`: no tree is empty.
* `Tree.length_preorder`, `Tree.length_postorder`: both orders list every node once.
-/

namespace Likeness

/-- A place in a source text, counted from zero. -/
structure Position where
  row : UInt32
  column : UInt32
deriving DecidableEq, Repr, Inhabited

/-- A node of a syntax tree together with everything below it. -/
structure Tree where
  kind : String
  text : String
  start? : Option Position
  stop? : Option Position
  children : List Tree
deriving Repr, Inhabited

namespace Tree

/-- A node without children. -/
def leaf (kind text : String) : Tree :=
  ⟨kind, text, none, none, []⟩

/-- A node that covers no text of its own. -/
def branch (kind : String) (children : List Tree) : Tree :=
  ⟨kind, "", none, none, children⟩

/-- The same node with one more child at the right end. -/
def withChild (tree child : Tree) : Tree :=
  { tree with children := tree.children ++ [child] }

def isLeaf (tree : Tree) : Bool :=
  tree.children.isEmpty

/-- The first child of the given kind. -/
def childOfKind? (tree : Tree) (kind : String) : Option Tree :=
  tree.children.find? (fun child => child.kind == kind)

end Tree

section Measures

mutual

/-- Number of nodes. -/
def Tree.size : Tree → Nat
  | ⟨_, _, _, _, children⟩ => Forest.size children + 1

/-- Number of nodes of all trees of a forest. -/
def Forest.size : List Tree → Nat
  | [] => 0
  | tree :: rest => tree.size + Forest.size rest

end

mutual

/-- Number of nodes on a longest path from the root down. -/
def Tree.height : Tree → Nat
  | ⟨_, _, _, _, children⟩ => Forest.height children + 1

/-- Height of the highest tree of a forest. -/
def Forest.height : List Tree → Nat
  | [] => 0
  | tree :: rest => max tree.height (Forest.height rest)

end

mutual

/-- Every node before its children, children from left to right. -/
def Tree.preorder : Tree → List Tree
  | ⟨kind, text, start?, stop?, children⟩ =>
      ⟨kind, text, start?, stop?, children⟩ :: Forest.preorder children

/-- The pre-orders of the trees of a forest, one after the other. -/
def Forest.preorder : List Tree → List Tree
  | [] => []
  | tree :: rest => tree.preorder ++ Forest.preorder rest

end

mutual

/-- Every node after its children, children from left to right. -/
def Tree.postorder : Tree → List Tree
  | ⟨kind, text, start?, stop?, children⟩ =>
      Forest.postorder children ++ [⟨kind, text, start?, stop?, children⟩]

/-- The post-orders of the trees of a forest, one after the other. -/
def Forest.postorder : List Tree → List Tree
  | [] => []
  | tree :: rest => tree.postorder ++ Forest.postorder rest

end

end Measures

section Lemmas

/-- The size of a tree is one more than that of the forest below its root. -/
theorem Tree.size_eq (tree : Tree) :
    tree.size = Forest.size tree.children + 1 := by
  cases tree
  rw [Tree.size]

/-- No tree is empty. -/
theorem Tree.size_pos (tree : Tree) : 0 < tree.size := by
  rw [Tree.size_eq]
  exact Nat.succ_pos _

@[simp] theorem Forest.size_nil : Forest.size [] = 0 := by
  rw [Forest.size]

@[simp] theorem Forest.size_cons (tree : Tree) (rest : List Tree) :
    Forest.size (tree :: rest) = tree.size + Forest.size rest := by
  rw [Forest.size]

@[simp] theorem Forest.size_append (left right : List Tree) :
    Forest.size (left ++ right) = Forest.size left + Forest.size right := by
  induction left with
  | nil => simp
  | cons tree rest ih => simp [ih, Nat.add_assoc]

theorem Forest.size_reverse (forest : List Tree) :
    Forest.size forest.reverse = Forest.size forest := by
  induction forest with
  | nil => rfl
  | cons tree rest ih =>
      rw [List.reverse_cons, Forest.size_append, Forest.size_cons, Forest.size_cons,
        Forest.size_nil, ih]
      omega

/-- A child is smaller than its parent. -/
theorem Forest.size_le_of_mem {tree : Tree} {forest : List Tree} (h : tree ∈ forest) :
    tree.size ≤ Forest.size forest := by
  induction forest with
  | nil => cases h
  | cons first rest ih =>
      rw [Forest.size_cons]
      rcases List.mem_cons.1 h with rfl | h
      · exact Nat.le_add_right _ _
      · exact Nat.le_trans (ih h) (Nat.le_add_left _ _)

/-- A child is smaller than its parent. -/
theorem Tree.size_lt_of_mem {child tree : Tree} (h : child ∈ tree.children) :
    child.size < tree.size := by
  rw [tree.size_eq]
  exact Nat.lt_succ_of_le (Forest.size_le_of_mem h)

mutual

/-- The pre-order of a tree lists each node once. -/
theorem Tree.length_preorder (tree : Tree) : tree.preorder.length = tree.size := by
  cases tree with
  | mk kind text start? stop? children =>
      simp [Tree.preorder, Tree.size, Forest.length_preorder children]

/-- The pre-order of a forest lists each node once. -/
theorem Forest.length_preorder (forest : List Tree) :
    (Forest.preorder forest).length = Forest.size forest := by
  cases forest with
  | nil => simp [Forest.preorder]
  | cons tree rest =>
      simp [Forest.preorder, Tree.length_preorder tree, Forest.length_preorder rest]

end

mutual

/-- The post-order of a tree lists each node once. -/
theorem Tree.length_postorder (tree : Tree) : tree.postorder.length = tree.size := by
  cases tree with
  | mk kind text start? stop? children =>
      simp [Tree.postorder, Tree.size, Forest.length_postorder children]

/-- The post-order of a forest lists each node once. -/
theorem Forest.length_postorder (forest : List Tree) :
    (Forest.postorder forest).length = Forest.size forest := by
  cases forest with
  | nil => simp [Forest.postorder]
  | cons tree rest =>
      simp [Forest.postorder, Tree.length_postorder tree, Forest.length_postorder rest]

end

end Lemmas

end Likeness
