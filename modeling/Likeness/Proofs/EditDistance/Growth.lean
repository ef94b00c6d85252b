import Likeness.Proofs.EditDistance.Metric

/-!
# Trees that grow at their right edge

The right edge of a tree are its root, the last child of the root, the last child of that, and so
on.  A tree that is added below one of them, behind all that is there, comes last among the nodes
below every node of the edge above.  The recurrence reads forests from the right, so it can match
the edge node by node and finds nothing but the new tree left over.  Elsewhere a new tree may cost
more, since what stands before two matched trees is paid again.

**Main statements.**
* `Grove.Grown.distanceBelow_le`: below a common root a forest is no further from the grown one
  than the new trees have nodes.
* `editDistance?_of_grown`: a tree is exactly that far from the grown one.
-/

namespace Likeness
namespace Grove

variable {α : Type} {S X X' : Grove α}

/-- The second forest is the first one with the trees of `S` added at its right edge. -/
inductive Grown (S : Grove α) : Grove α → Grove α → Prop
  | beside (X : Grove α) : Grown S X (X ++ S)
  | within {W U U' : Grove α} {p : α} : Grown S U U' → Grown S (node W p U) (node W p U')

namespace Grown

theorem size_eq (h : Grown S X X') : X'.size = X.size + S.size := by
  induction h with
  | beside X => rw [size_append]
  | within _ ih =>
      rw [size_node, size_node, ih]
      omega

variable [DecidableEq α]

/-- With the same before them, a forest is no further from the grown one than `S` has nodes. -/
theorem distanceBelow_le (h : Grown S X X') (W : Grove α) :
    distanceBelow W W X X' ≤ S.size := by
  induction h generalizing W with
  | beside X =>
      have removed := distanceBelow_initial_le' W W X (Initial.append_right X S)
      rw [distanceBelow_self, size_append] at removed
      omega
  | @within V U U' p _ ih =>
      have roots := distanceBelow_match_le W W V p U V p U'
      have matched := distance_match_le (W ++ V) p U (W ++ V) p U'
      have below := ih (W ++ V)
      rw [distanceBelow_self, append_node, append_node] at roots
      rw [distance_self, relabel_self] at matched
      omega

/-- A tree whose children have grown is as far from itself as `S` has nodes. -/
theorem distance_eq (h : Grown S X X') (p : α) :
    distance (node nil p X) (node nil p X') = S.size := by
  have atMost := distance_match_le nil p X nil p X'
  have below := h.distanceBelow_le nil
  have atLeast := size_le_distance' (node nil p X) (node nil p X')
  rw [distance_self, relabel_self] at atMost
  rw [size_node, size_node, h.size_eq] at atLeast
  omega

end Grown

end Grove

section Trees

/-- The second tree is the first one with a new last child below a node of its right edge. -/
inductive Tree.Grown (new : Tree) : Tree → Tree → Prop
  | root (tree : Tree) : Grown new tree (tree.withChild new)
  | lastChild {tree : Tree} (before : List Tree) {last last' : Tree} :
      tree.children = before ++ [last] → Grown new last last' →
        Grown new tree { tree with children := before ++ [last'] }

theorem Forest.outline_append (left right : List Tree) :
    Forest.outline (left ++ right) = Forest.outline left ++ Forest.outline right := by
  induction left with
  | nil => rw [List.nil_append, Forest.outline_nil, Grove.nil_append]
  | cons tree rest ih =>
      rw [List.cons_append, Forest.outline_cons, Forest.outline_cons, ih, Grove.append_assoc]

theorem Forest.outline_concat (before : List Tree) (last : Tree) :
    Forest.outline (before ++ [last])
      = .node (Forest.outline before) last.label (Forest.outline last.children) := by
  rw [Forest.outline_append, Forest.outline_cons, Forest.outline_nil, Grove.append_nil,
    Tree.outline_eq, Grove.append_node, Grove.append_nil]

theorem Tree.Grown.outlines {new tree tree' : Tree} (h : Grown new tree tree') :
    tree'.label = tree.label
      ∧ Grove.Grown new.outline (Forest.outline tree.children) (Forest.outline tree'.children) := by
  induction h with
  | root tree =>
      refine ⟨rfl, ?_⟩
      rw [Tree.withChild, Forest.outline_append, Forest.outline_cons, Forest.outline_nil,
        Grove.append_nil]
      exact .beside _
  | lastChild before children _ ih =>
      refine ⟨rfl, ?_⟩
      rw [children, Forest.outline_concat, Forest.outline_concat, ih.1]
      exact .within ih.2

/-- A tree is exactly as far from the same tree, grown at its right edge, as the new tree has
nodes. -/
theorem editDistance?_of_grown {new tree tree' : Tree} (h : Tree.Grown new tree tree') :
    editDistance? (some tree) (some tree') = new.count
      ∧ editDistance? (some tree') (some tree) = new.count := by
  obtain ⟨label, grown⟩ := h.outlines
  have distance : editDistance? (some tree) (some tree') = new.count := by
    rw [editDistance?_eq, outline?, outline?, Tree.outline_eq tree, Tree.outline_eq tree', label,
      grown.distance_eq, Tree.size_outline, Tree.count_eq]
  refine ⟨distance, ?_⟩
  rw [editDistance?_eq, Grove.distance_comm, ← editDistance?_eq]
  exact distance

/-- A call with one argument. -/
def callOf (name argument : String) : Tree :=
  .branch "call" [.leaf "identifier" name, .leaf "integer" argument]

/-- A comment and a call. -/
def commentedCall (arguments : List Tree) : Tree :=
  .branch "block" [.leaf "comment" "# f",
    .branch "call" [.leaf "identifier" "f", .branch "arguments" arguments]]

/-- A call is added behind the last argument of the last call of a block. -/
theorem editDistance?_of_grown_call :
    Tree.Grown (callOf "g" "1") (commentedCall [.leaf "identifier" "x"])
        (commentedCall [.leaf "identifier" "x", callOf "g" "1"])
      ∧ editDistance? (some (commentedCall [.leaf "identifier" "x"]))
          (some (commentedCall [.leaf "identifier" "x", callOf "g" "1"])) = 3 := by
  have grown : Tree.Grown (callOf "g" "1") (commentedCall [.leaf "identifier" "x"])
      (commentedCall [.leaf "identifier" "x", callOf "g" "1"]) := by
    refine .lastChild [.leaf "comment" "# f"] rfl ?_
    refine .lastChild [.leaf "identifier" "f"] rfl ?_
    exact .root (.branch "arguments" [.leaf "identifier" "x"])
  have count : (callOf "g" "1").count = 3 := by
    rw [Tree.count_eq]
    decide
  exact ⟨grown, by rw [← count]; exact (editDistance?_of_grown grown).1⟩

end Trees

end Likeness
