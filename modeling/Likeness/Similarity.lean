import Likeness.Binary64
import Likeness.EditDistance.Table

/-!
# Similarity of two trees

The distance of two trees is at most the number of nodes of both: delete every node of
one, then insert every node of the other.  One minus their quotient is the similarity, a
number between zero and one; two absent trees are alike.
-/

namespace Likeness

/-- Upper bound on the distance of two trees that may be absent. -/
def distanceBound (a b : Option Tree) : Nat :=
  countNodes a + countNodes b

/-- A number moved into the interval from zero to one. -/
def clampUnit (x : Float) : Float :=
  if x < 0.0 then 0.0 else if 1.0 < x then 1.0 else x

/-- Similarity for a distance and its upper bound. -/
def similarity (distance bound : Nat) : Binary64 :=
  if bound = 0 then
    if distance = 0 then .one else .zero
  else
    .ofFloat (clampUnit (1.0 - Float.ofNat distance / Float.ofNat bound))

/-- What comparing two trees yields. -/
structure Score where
  distance : Nat
  bound : Nat
  similarity : Binary64
deriving DecidableEq, Repr, Inhabited

/-- Compares two trees that may be absent. -/
def score (a b : Option Tree) : Score :=
  let distance := editDistance? a b
  let bound := distanceBound a b
  ⟨distance, bound, similarity distance bound⟩

/-- Compares two trees. -/
def scorePair (a b : Tree) : Score :=
  score (some a) (some b)

end Likeness
