import Likeness.Tree

/-!
# Costs of single edits

An edit deletes one node, inserts one node, or puts one node in the place of another.
Deleting and inserting cost one.  A substitution is free when the two nodes have the same
label: the same kind and, for the few kinds whose text matters, the same text.
-/

namespace Likeness
namespace EditDistance

/-- Kinds of node whose text is part of the label. -/
def textualKinds : List String :=
  ["identifier", "string", "integer", "float", "comment"]

/-- Whether the text of a node of this kind is part of its label. -/
def isTextual (kind : String) : Bool :=
  textualKinds.contains kind

/-- Whether two nodes have the same label. -/
def sameLabel (a b : Tree) : Bool :=
  a.kind == b.kind && (!isTextual a.kind || a.text == b.text)

/-- Cost of deleting a node. -/
def deletion : Nat := 1

/-- Cost of inserting a node. -/
def insertion : Nat := 1

/-- Cost of putting one node in the place of another. -/
def substitution (a b : Tree) : Nat :=
  if sameLabel a b then 0 else 1

/-- Cost of turning one node into another, either of which may be absent. -/
def nodeCost : Option Tree → Option Tree → Nat
  | none, none => 0
  | some _, none => deletion
  | none, some _ => insertion
  | some a, some b => substitution a b

/-- A substitution costs at most one. -/
theorem substitution_le_one (a b : Tree) : substitution a b ≤ 1 := by
  unfold substitution
  split <;> decide

end EditDistance
end Likeness
