import Likeness.Proofs.EditDistance.LeastCost
import Likeness.Proofs.EditDistance.Triangle

/-!
# Surplus leaves

A forest gets more leaves at its right end, of a label that the other forest lacks.  Each of
these leaves costs one, whether it is removed or relabelled, but a relabelled one takes the
place of a leaf that had to be inserted.  `Grove.spareCost` is the least cost that remains
however many surplus leaves there are.

**Main statements.**
* `Grove.spareCost_le_leastCost`: the least cost grows with every surplus leaf.
* `Grove.distance_surplus_le`: the distance below two roots grows no faster.
* `Grove.distance_surplus_succ_le`: one more leaf changes the distance by one at most.
-/

namespace Likeness
namespace Grove

variable {α : Type}

section Leaves

def leaves (p : α) : Nat → Grove α
  | 0 => nil
  | n + 1 => node (leaves p n) p nil

/-- No node has the label. -/
def Lacks (p : α) : Grove α → Prop
  | nil => True
  | node W q U => Lacks p W ∧ p ≠ q ∧ Lacks p U

@[simp] theorem size_leaves (p : α) (n : Nat) : (leaves p n).size = n := by
  induction n with
  | zero => rfl
  | succ n ih => rw [leaves, size_node, ih, size_nil, Nat.add_zero]

/-- A leaf may be put in front of the others as well. -/
theorem leaf_append_leaves (p : α) (n : Nat) :
    node nil p nil ++ leaves p n = leaves p (n + 1) := by
  induction n with
  | zero => rfl
  | succ n ih =>
      rw [leaves, append_node, ih]
      rfl

theorem Lacks.append {p : α} {W U : Grove α} (hW : Lacks p W) (hU : Lacks p U) :
    Lacks p (W ++ U) := by
  induction U with
  | nil => exact hW
  | node U₁ q U₂ ih _ =>
      obtain ⟨h₁, ne, h₂⟩ := hU
      exact ⟨ih h₁, ne, h₂⟩

end Leaves

section Costs

variable [DecidableEq α]

/-- Least cost of editing a forest with any number of surplus leaves at its right end, less
the number of these leaves. -/
def spareCost (X : Grove α) : Grove α → Nat
  | nil => X.size
  | node V q S =>
      min (leastCost X (node V q S)) (min (spareCost X (V ++ S) + 1) (spareCost X V + S.size))
termination_by Y => Y.size
decreasing_by
  all_goals simp only [size_append, size_node]
  all_goals omega

/-- An additional last root on the right raises the least cost by one at most. -/
theorem leastCost_le_insert (X V : Grove α) (q : α) (S : Grove α) :
    leastCost X (V ++ S) ≤ leastCost X (node V q S) + 1 := by
  cases X with
  | nil =>
      simp only [leastCost_nil_left, size_append, size_node]
      omega
  | node W p U =>
      rcases leastCost_cases W p U V q S with h | h | h
      · have ih := leastCost_le_insert (W ++ U) V q S
        have step := leastCost_delete_le W p U (V ++ S)
        omega
      · omega
      · have step := leastCost_delete_le W p U (V ++ S)
        have side := leastCost_append_le W V U S
        omega
termination_by X.size
decreasing_by
  simp only [size_append, size_node]
  omega

theorem leastCost_le_delete (W : Grove α) (p : α) (U Y : Grove α) :
    leastCost (W ++ U) Y ≤ leastCost (node W p U) Y + 1 := by
  rw [leastCost_comm (W ++ U), leastCost_comm (node W p U)]
  exact leastCost_le_insert Y W p U

/-- A common root above two forests does not make them any nearer to each other. -/
theorem leastCost_le_below (p : α) (U S : Grove α) :
    leastCost U S ≤ leastCost (node nil p U) (node nil p S) := by
  rcases leastCost_cases nil p U nil p S with h | h | h
  · have step := leastCost_le_insert U nil p S
    rw [nil_append] at h step
    omega
  · have step := leastCost_le_delete nil p U S
    rw [nil_append] at h step
    omega
  · rw [leastCost_self, relabel_self] at h
    omega

/-- One more surplus leaf raises the least cost. -/
theorem spareCost_le_succ {X : Grove α} {p : α} {n : Nat}
    (fewer : ∀ Y, Lacks p Y → n + spareCost X Y ≤ leastCost (X ++ leaves p n) Y)
    (Y : Grove α) :
    Lacks p Y → n + 1 + spareCost X Y ≤ leastCost (X ++ leaves p (n + 1)) Y := by
  rw [leaves, append_node]
  cases Y with
  | nil =>
      intro _
      rw [spareCost, leastCost_nil_right, size_node, size_append, size_leaves, size_nil]
      omega
  | node V q S =>
      rintro ⟨lacksV, ne, lacksS⟩
      rcases leastCost_cases (X ++ leaves p n) p nil V q S with h | h | h
      · have removed := fewer (node V q S) ⟨lacksV, ne, lacksS⟩
        rw [append_nil] at h
        omega
      · have ih := spareCost_le_succ fewer (V ++ S) (lacksV.append lacksS)
        rw [leaves, append_node] at ih
        rw [spareCost]
        omega
      · have relabelled := fewer V lacksV
        have one : relabel p q = 1 := if_neg ne
        rw [leastCost_nil_left] at h
        rw [spareCost]
        omega
termination_by Y.size
decreasing_by
  simp only [size_append, size_node]
  omega

/-- The least cost grows with every surplus leaf. -/
theorem spareCost_le_leastCost (X : Grove α) (p : α) (n : Nat) :
    ∀ Y, Lacks p Y → n + spareCost X Y ≤ leastCost (X ++ leaves p n) Y := by
  induction n with
  | zero =>
      intro Y _
      rw [leaves, append_nil]
      cases Y with
      | nil =>
          rw [spareCost, leastCost_nil_right]
          omega
      | node V q S =>
          rw [spareCost]
          omega
  | succ n ih => exact spareCost_le_succ ih

end Costs

section Distances

variable [DecidableEq α]

/-- The distance of two trees below one root grows by one at most with every surplus leaf. -/
theorem distance_surplus_le (r p : α) (n : Nat) (a : α) (A : Grove α) (b : α) (B : Grove α) :
    distance (node nil r (node nil a A ++ leaves p n)) (node nil r (node nil b B))
      ≤ distance (node nil a A) (node nil b B) + n := by
  have h1 := distance_match_le nil r (node nil a A ++ leaves p n) nil r (node nil b B)
  have h2 := distanceBelow_initial_le nil nil
    (Initial.append_right (node nil a A) (leaves p n)) (node nil b B)
  have h3 := distanceBelow_match_le nil nil nil a A nil b B
  rw [distance_self, relabel_self] at h1
  rw [distanceBelow_self, nil_append, nil_append] at h3
  rw [size_append, size_leaves] at h2
  omega

/-- One more leaf changes the distance by one at most. -/
theorem distance_surplus_succ_le (r p : α) (n : Nat) (X Y : Grove α) :
    distance (node nil r (X ++ leaves p (n + 1))) Y
      ≤ distance (node nil r (X ++ leaves p n)) Y + 1 := by
  have detour := distance_triangle (node nil r (X ++ leaves p (n + 1)))
    (node nil r (X ++ leaves p n)) Y
  have h1 := distance_match_le nil r (X ++ leaves p (n + 1)) nil r (X ++ leaves p n)
  have h2 := distanceBelow_delete_le nil nil (X ++ leaves p n) p nil (X ++ leaves p n)
  rw [distance_self, relabel_self] at h1
  rw [append_nil, distanceBelow_self] at h2
  rw [leaves, append_node] at h1 detour
  rw [leaves, append_node]
  omega

end Distances

end Grove
end Likeness
