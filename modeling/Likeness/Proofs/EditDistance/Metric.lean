import Likeness.Proofs.EditDistance.Filling
import Likeness.Proofs.EditDistance.Triangle
import Likeness.Proofs.Tree.Walk

/-!
# The edit distance is a metric on trees up to likeness

The edit distance of two trees is the distance of their outlines, and an absent tree has the
empty outline.  What has been shown of the distance of two forests therefore holds of the
numbers that the program computes.

**Main statements.**
* `editDistance_eq_zero_iff`: exactly the trees that are alike have distance zero.
* `editDistance?_comm`: the distance does not depend on the order of the trees.
* `editDistance?_triangle`: a detour over a third tree is never shorter.
-/

namespace Likeness

section Metric

/-- The outline of a tree that may be absent. -/
def outline? : Option Tree → Grove Label
  | none => .nil
  | some tree => tree.outline

/-- The distance of trees that may be absent is the distance of their outlines. -/
theorem editDistance?_eq (a b : Option Tree) :
    editDistance? a b = Grove.distance (outline? a) (outline? b) := by
  rcases a with _ | a <;> rcases b with _ | b
  · rw [editDistance?, outline?, Grove.distance_self]
  · rw [editDistance?, outline?, outline?, Grove.distance_nil_left, Tree.size_outline,
      Tree.count_eq]
  · rw [editDistance?, outline?, outline?, Grove.distance_nil_right, Tree.size_outline,
      Tree.count_eq]
  · exact editDistance_eq a b

/-- Trees at distance zero have the same outline. -/
theorem outline?_eq_of_editDistance?_eq_zero {a b : Option Tree} (zero : editDistance? a b = 0) :
    outline? a = outline? b := by
  rw [editDistance?_eq] at zero
  exact Grove.eq_of_distance_eq_zero zero

/-- Exactly the trees that are alike have distance zero. -/
theorem editDistance_eq_zero_iff (a b : Tree) : editDistance a b = 0 ↔ a.Alike b := by
  rw [editDistance_eq, ← Tree.outline_eq_iff]
  constructor
  · intro h
    exact Grove.eq_of_distance_eq_zero h
  · intro h
    rw [h, Grove.distance_self]

/-- The distance does not depend on the order of the trees. -/
theorem editDistance?_comm (a b : Option Tree) : editDistance? a b = editDistance? b a := by
  rw [editDistance?_eq, editDistance?_eq, Grove.distance_comm]

/-- A detour over a third tree is never shorter. -/
theorem editDistance?_triangle (a b c : Option Tree) :
    editDistance? a c ≤ editDistance? a b + editDistance? b c := by
  rw [editDistance?_eq, editDistance?_eq, editDistance?_eq]
  exact Grove.distance_triangle _ _ _

end Metric

end Likeness
