import Likeness.Tree

/-!
# Pairs of a batch

Every unordered pair of trees of a batch is compared once.  Pairs stand in row-major order:
all pairs with the first tree, then all others with the second tree, and so on.
-/

namespace Likeness

/-- Two trees to compare, with their places in the batch, `i < j`. -/
structure Pairing where
  i : Nat
  j : Nat
  left : Tree
  right : Tree
deriving Repr, Inhabited

namespace Pairing

/-- The pairs of the tree at place `i` with those behind it. -/
def row (i : Nat) (left : Tree) (behind : List Tree) : List Pairing :=
  (behind.zipIdx (i + 1)).map (fun (right, j) => ⟨i, j, left, right⟩)

/-- The pairs of some trees of which the first stands at place `i`. -/
def startingAt (i : Nat) : List Tree → List Pairing
  | [] => []
  | left :: behind => row i left behind ++ startingAt (i + 1) behind

def all (trees : List Tree) : List Pairing :=
  startingAt 0 trees

end Pairing

end Likeness
