import Likeness.EditDistance.Cost
import Likeness.Proofs.EditDistance.Recurrence

/-!
# What the edit distance sees of a tree

The label of a node is its kind together with its text, where the text matters.  The outline
of a tree is the forest of its labels, read from the right.  Two trees with the same outline
are alike: they have the same shape, and at each place the same kind and, for textual kinds,
the same text.

**Main statements.**
* `EditDistance.substitution_eq_relabel`: a substitution costs what relabelling costs.
* `Tree.outline_eq_iff`: two trees have one outline if and only if they are alike.
-/

namespace Likeness

section Labels

/-- What a substitution compares of a node. -/
structure Label where
  kind : String
  text : String
deriving DecidableEq, Repr

/-- The label of a node of this kind and text. -/
def Label.of (kind text : String) : Label :=
  ⟨kind, if EditDistance.isTextual kind then text else ""⟩

theorem Label.of_eq_of_iff {kind text kind' text' : String} :
    Label.of kind text = Label.of kind' text'
      ↔ kind = kind' ∧ (EditDistance.isTextual kind → text = text') := by
  rw [Label.of, Label.of, Label.mk.injEq]
  constructor
  · rintro ⟨rfl, htext⟩
    refine ⟨rfl, ?_⟩
    intro textual
    rwa [if_pos textual, if_pos textual] at htext
  · rintro ⟨rfl, htext⟩
    refine ⟨rfl, ?_⟩
    split
    · exact htext ‹_›
    · rfl

def Tree.label (tree : Tree) : Label :=
  Label.of tree.kind tree.text

namespace EditDistance

theorem sameLabel_iff (a b : Tree) : sameLabel a b ↔ a.label = b.label := by
  rw [Tree.label, Tree.label, Label.of_eq_of_iff, sameLabel]
  cases isTextual a.kind <;> simp

theorem substitution_eq_relabel (a b : Tree) :
    substitution a b = Grove.relabel a.label b.label := by
  rw [substitution, Grove.relabel]
  simp only [sameLabel_iff]

end EditDistance

end Labels

section Outlines

mutual

/-- The labels of a forest with one more tree at its right end. -/
def Tree.outlineAfter (before : Grove Label) : Tree → Grove Label
  | ⟨kind, text, _, _, children⟩ =>
      .node before (Label.of kind text) (Forest.outlineAfter .nil children)

/-- The labels of a forest with some more trees at its right end. -/
def Forest.outlineAfter (before : Grove Label) : List Tree → Grove Label
  | [] => before
  | tree :: rest => Forest.outlineAfter (tree.outlineAfter before) rest

end

def Tree.outline (tree : Tree) : Grove Label :=
  tree.outlineAfter .nil

def Forest.outline (forest : List Tree) : Grove Label :=
  Forest.outlineAfter .nil forest

theorem Tree.outlineAfter_eq (before : Grove Label) (tree : Tree) :
    tree.outlineAfter before = .node before tree.label (Forest.outline tree.children) := by
  cases tree
  rw [Tree.outlineAfter, Tree.label, Forest.outline]

theorem Tree.outline_eq (tree : Tree) :
    tree.outline = .node .nil tree.label (Forest.outline tree.children) :=
  Tree.outlineAfter_eq .nil tree

theorem Tree.outline_branch (kind : String) (children : List Tree) :
    (Tree.branch kind children).outline
      = .node .nil (Label.of kind "") (Forest.outline children) :=
  Tree.outline_eq _

@[simp] theorem Forest.outline_nil : Forest.outline [] = .nil := by
  rw [Forest.outline, Forest.outlineAfter]

theorem Forest.outlineAfter_eq (before : Grove Label) (forest : List Tree) :
    Forest.outlineAfter before forest = before ++ Forest.outline forest := by
  induction forest generalizing before with
  | nil => rw [Forest.outlineAfter, Forest.outline_nil, Grove.append_nil]
  | cons tree rest ih =>
      rw [Forest.outlineAfter, Forest.outline, Forest.outlineAfter, ih, ih,
        ← Grove.append_assoc, Tree.outlineAfter_eq, Tree.outlineAfter_eq, Grove.append_node,
        Grove.append_nil]

theorem Forest.outline_cons (tree : Tree) (rest : List Tree) :
    Forest.outline (tree :: rest) = tree.outline ++ Forest.outline rest := by
  rw [Forest.outline, Forest.outlineAfter, Forest.outlineAfter_eq, Tree.outline]

mutual

theorem Tree.size_outline (tree : Tree) : tree.outline.size = tree.size := by
  cases tree with
  | mk kind text start? stop? children =>
      rw [Tree.outline_eq, Grove.size_node, Forest.size_outline children, Grove.size_nil,
        Tree.size, Nat.zero_add]

theorem Forest.size_outline (forest : List Tree) :
    (Forest.outline forest).size = Forest.size forest := by
  cases forest with
  | nil => simp
  | cons tree rest =>
      rw [Forest.outline_cons, Grove.size_append, Forest.size_cons, Tree.size_outline tree,
        Forest.size_outline rest]

end

end Outlines

section Likenesses

mutual

/-- Same shape, and at each place the same kind and, for textual kinds, the same text. -/
def Tree.Alike : Tree → Tree → Prop
  | ⟨kind, text, _, _, children⟩, ⟨kind', text', _, _, children'⟩ =>
      kind = kind' ∧ (EditDistance.isTextual kind → text = text')
        ∧ Forest.Alike children children'

/-- As many trees, which are alike one by one. -/
def Forest.Alike : List Tree → List Tree → Prop
  | [], [] => True
  | tree :: rest, tree' :: rest' => tree.Alike tree' ∧ Forest.Alike rest rest'
  | _, _ => False

end

theorem Tree.outline_ne_nil (tree : Tree) : tree.outline ≠ .nil := by
  rw [Tree.outline_eq]
  exact nofun

theorem Forest.outline_cons_ne_nil (tree : Tree) (rest : List Tree) :
    Forest.outline (tree :: rest) ≠ .nil := by
  intro h
  have sizes := congrArg Grove.size h
  rw [Forest.size_outline, Forest.size_cons, Grove.size_nil] at sizes
  have pos := tree.size_pos
  omega

/-- A forest of outlines is cut in one way into its first tree and the rest. -/
theorem Grove.node_append_inj {α : Type} {p p' : α} {U U' X X' : Grove α}
    (h : node nil p U ++ X = node nil p' U' ++ X') : p = p' ∧ U = U' ∧ X = X' := by
  induction X generalizing X' with
  | nil =>
      cases X' with
      | nil => simpa using h
      | node V q S =>
          simp only [append_nil, append_node, node.injEq] at h
          have hs := congrArg size h.1
          simp only [size_nil, size_append, size_node] at hs
          omega
  | node W q S ihW _ =>
      cases X' with
      | nil =>
          simp only [append_nil, append_node, node.injEq] at h
          have hs := congrArg size h.1
          simp only [size_nil, size_append, size_node] at hs
          omega
      | node V q' S' =>
          simp only [append_node, node.injEq] at h
          obtain ⟨hWV, rfl, rfl⟩ := h
          obtain ⟨rfl, rfl, rfl⟩ := ihW hWV
          exact ⟨rfl, rfl, rfl⟩

mutual

/-- Two trees have one outline if and only if they are alike. -/
theorem Tree.outline_eq_iff (a b : Tree) : a.outline = b.outline ↔ a.Alike b := by
  cases a with
  | mk kind text start? stop? children =>
      cases b with
      | mk kind' text' start?' stop?' children' =>
          rw [Tree.outline_eq, Tree.outline_eq, Tree.Alike, Grove.node.injEq, Tree.label,
            Tree.label, Label.of_eq_of_iff, Forest.outline_eq_iff children children']
          simp only [true_and, and_assoc]

theorem Forest.outline_eq_iff (left right : List Tree) :
    Forest.outline left = Forest.outline right ↔ Forest.Alike left right := by
  match left, right with
  | [], [] => simp [Forest.Alike]
  | [], tree :: rest =>
      rw [Forest.Alike, iff_false]
      · intro h
        exact Forest.outline_cons_ne_nil tree rest (h.symm.trans Forest.outline_nil)
      all_goals simp
  | tree :: rest, [] =>
      rw [Forest.Alike, iff_false]
      · intro h
        exact Forest.outline_cons_ne_nil tree rest (h.trans Forest.outline_nil)
      all_goals simp
  | tree :: rest, tree' :: rest' =>
      rw [Forest.Alike, ← Tree.outline_eq_iff tree tree', ← Forest.outline_eq_iff rest rest',
        Forest.outline_cons, Forest.outline_cons]
      constructor
      · intro h
        rw [Tree.outline_eq, Tree.outline_eq] at h ⊢
        obtain ⟨hp, hU, hX⟩ := Grove.node_append_inj h
        rw [hp, hU, hX]
        exact ⟨rfl, rfl⟩
      · rintro ⟨h, h'⟩
        rw [h, h']

end

end Likenesses

end Likeness
