import Likeness.Proofs.EditDistance.Recurrence

/-!
# The recurrence of the least cost

If two last roots are matched, what stands before the two trees and what stands below the two
roots are edited apart from each other.  This is the recurrence of the textbook.  It differs
from the one of `Grove.distance` in the forests below two roots only, where it looks at these
forests alone.

**Main statements.**
* `Grove.leastCost_append_le`: forests side by side can be edited one after the other.
* `Grove.leastCost_le_append`: what stands in front can be taken away again, at the cost of
  editing it.
-/

namespace Likeness
namespace Grove

variable {α : Type} [DecidableEq α]

/-- The least cost of editing one forest into another. -/
def leastCost : Grove α → Grove α → Nat
  | nil, Y => Y.size
  | node W p U, nil => (node W p U).size
  | node W p U, node V q S =>
      min (min (leastCost (W ++ U) (node V q S) + 1) (leastCost (node W p U) (V ++ S) + 1))
        (leastCost W V + leastCost U S + relabel p q)
termination_by X Y => X.size + Y.size
decreasing_by
  all_goals simp only [size_append, size_node]
  all_goals omega

section Unfolding

@[simp] theorem leastCost_nil_left (Y : Grove α) : leastCost nil Y = Y.size := by
  rw [leastCost]

@[simp] theorem leastCost_nil_right (X : Grove α) : leastCost X nil = X.size := by
  cases X <;> rw [leastCost]

/-- Removing the last root on the left. -/
theorem leastCost_delete_le (W : Grove α) (p : α) (U Y : Grove α) :
    leastCost (node W p U) Y ≤ leastCost (W ++ U) Y + 1 := by
  cases Y with
  | nil => simp
  | node V q S =>
      rw [leastCost]
      omega

/-- Removing the last root on the right. -/
theorem leastCost_insert_le (X V : Grove α) (q : α) (S : Grove α) :
    leastCost X (node V q S) ≤ leastCost X (V ++ S) + 1 := by
  cases X with
  | nil => simp
  | node W p U =>
      rw [leastCost]
      omega

/-- Matching the two last roots. -/
theorem leastCost_match_le (W : Grove α) (p : α) (U V : Grove α) (q : α) (S : Grove α) :
    leastCost (node W p U) (node V q S)
      ≤ leastCost W V + leastCost U S + relabel p q := by
  rw [leastCost]
  omega

/-- The least cost is reached in one of the three ways. -/
theorem leastCost_cases (W : Grove α) (p : α) (U V : Grove α) (q : α) (S : Grove α) :
    leastCost (node W p U) (node V q S) = leastCost (W ++ U) (node V q S) + 1
      ∨ leastCost (node W p U) (node V q S) = leastCost (node W p U) (V ++ S) + 1
      ∨ leastCost (node W p U) (node V q S)
          = leastCost W V + leastCost U S + relabel p q := by
  rw [leastCost]
  omega

end Unfolding

section Bounds

theorem leastCost_le_swap (X Y : Grove α) : leastCost X Y ≤ leastCost Y X := by
  cases X with
  | nil => simp
  | node W p U =>
      cases Y with
      | nil => simp
      | node V q S =>
          rcases leastCost_cases V q S W p U with h | h | h
          · have ih := leastCost_le_swap (node W p U) (V ++ S)
            have step := leastCost_insert_le (node W p U) V q S
            omega
          · have ih := leastCost_le_swap (W ++ U) (node V q S)
            have step := leastCost_delete_le W p U (node V q S)
            omega
          · have ih := leastCost_le_swap W V
            have ih' := leastCost_le_swap U S
            have step := leastCost_match_le W p U V q S
            rw [relabel_comm] at h
            omega
termination_by X.size + Y.size
decreasing_by
  all_goals simp only [size_append, size_node]
  all_goals omega

/-- The least cost does not depend on the order of the forests. -/
theorem leastCost_comm (X Y : Grove α) : leastCost X Y = leastCost Y X :=
  Nat.le_antisymm (leastCost_le_swap X Y) (leastCost_le_swap Y X)

theorem leastCost_self (X : Grove α) : leastCost X X = 0 := by
  induction X with
  | nil => simp
  | node W p U ihW ihU =>
      have h := leastCost_match_le W p U W p U
      rw [ihW, ihU, relabel_self] at h
      exact Nat.eq_zero_of_le_zero h

/-- Removing some last roots on the left costs at most one for each. -/
theorem leastCost_initial_le {X' X : Grove α} (h : Initial X' X) (Y : Grove α) :
    leastCost X Y + X'.size ≤ leastCost X' Y + X.size :=
  h.cost_le (fun X => leastCost X Y)
    (fun W p U => leastCost_delete_le W p U Y)

/-- Removing some last roots on the right costs at most one for each. -/
theorem leastCost_initial_le' (X : Grove α) {Y' Y : Grove α} (h : Initial Y' Y) :
    leastCost X Y + Y'.size ≤ leastCost X Y' + Y.size := by
  rw [leastCost_comm X Y, leastCost_comm X Y']
  exact leastCost_initial_le h X

/-- Removing some last roots on both sides. -/
theorem leastCost_initials_le {X' X Y' Y : Grove α} (hX : Initial X' X) (hY : Initial Y' Y) :
    leastCost X Y + X'.size + Y'.size ≤ leastCost X' Y' + X.size + Y.size := by
  have h1 := leastCost_initial_le hX Y
  have h2 := leastCost_initial_le' X' hY
  omega

theorem leastCost_le (X Y : Grove α) : leastCost X Y ≤ X.size + Y.size := by
  have h := leastCost_initial_le (Initial.of_nil X) Y
  simp only [leastCost_nil_left, size_nil] at h
  omega

/-- The least cost is at least the difference of the sizes. -/
theorem size_le_leastCost (X Y : Grove α) : X.size ≤ Y.size + leastCost X Y := by
  cases X with
  | nil => exact Nat.zero_le _
  | node W p U =>
      cases Y with
      | nil => simp
      | node V q S =>
          rcases leastCost_cases W p U V q S with h | h | h
          · have ih := size_le_leastCost (W ++ U) (node V q S)
            simp only [size_append, size_node] at ih ⊢
            omega
          · have ih := size_le_leastCost (node W p U) (V ++ S)
            simp only [size_append, size_node] at ih ⊢
            omega
          · have ih := size_le_leastCost W V
            have ih' := size_le_leastCost U S
            simp only [size_node]
            omega
termination_by X.size + Y.size
decreasing_by
  all_goals simp only [size_append, size_node]
  all_goals omega

/-- The least cost is at least the difference of the sizes. -/
theorem size_le_leastCost' (X Y : Grove α) : Y.size ≤ X.size + leastCost X Y := by
  rw [leastCost_comm]
  exact size_le_leastCost Y X

end Bounds

section SideBySide

/-- Forests side by side can be edited one after the other. -/
theorem leastCost_append_le (W V A B : Grove α) :
    leastCost (W ++ A) (V ++ B) ≤ leastCost W V + leastCost A B := by
  cases A with
  | nil =>
      have h := leastCost_initial_le' W (Initial.append_right V B)
      simp only [append_nil, leastCost_nil_left, size_append] at h ⊢
      omega
  | node A₁ a A₂ =>
      cases B with
      | nil =>
          have h := leastCost_initial_le (Initial.append_right W (node A₁ a A₂)) V
          simp only [append_nil, leastCost_nil_right, size_append] at h ⊢
          omega
      | node B₁ b B₂ =>
          simp only [append_node]
          rcases leastCost_cases A₁ a A₂ B₁ b B₂ with h | h | h
          · have ih := leastCost_append_le W V (A₁ ++ A₂) (node B₁ b B₂)
            have step := leastCost_delete_le (W ++ A₁) a A₂ (node (V ++ B₁) b B₂)
            rw [← append_assoc, append_node] at ih
            omega
          · have ih := leastCost_append_le W V (node A₁ a A₂) (B₁ ++ B₂)
            have step := leastCost_insert_le (node (W ++ A₁) a A₂) (V ++ B₁) b B₂
            rw [← append_assoc, append_node] at ih
            omega
          · have ih := leastCost_append_le W V A₁ B₁
            have step := leastCost_match_le (W ++ A₁) a A₂ (V ++ B₁) b B₂
            omega
termination_by A.size + B.size
decreasing_by
  all_goals simp only [size_append, size_node]
  all_goals omega

/-- What stands in front can be taken away again, at the cost of editing it. -/
theorem leastCost_le_append (W V A B : Grove α) :
    leastCost A B ≤ leastCost (W ++ A) (V ++ B) + leastCost W V := by
  cases A with
  | nil =>
      have h1 := size_le_leastCost' W (V ++ B)
      have h2 := size_le_leastCost W V
      simp only [append_nil, leastCost_nil_left, size_append] at h1 ⊢
      omega
  | node A₁ a A₂ =>
      cases B with
      | nil =>
          have h1 := size_le_leastCost (W ++ node A₁ a A₂) V
          have h2 := size_le_leastCost' W V
          simp only [append_nil, leastCost_nil_right, size_append] at h1 ⊢
          omega
      | node B₁ b B₂ =>
          simp only [append_node]
          rcases leastCost_cases (W ++ A₁) a A₂ (V ++ B₁) b B₂ with h | h | h
          · have ih := leastCost_le_append W V (A₁ ++ A₂) (node B₁ b B₂)
            have step := leastCost_delete_le A₁ a A₂ (node B₁ b B₂)
            rw [← append_assoc, append_node] at ih
            omega
          · have ih := leastCost_le_append W V (node A₁ a A₂) (B₁ ++ B₂)
            have step := leastCost_insert_le (node A₁ a A₂) B₁ b B₂
            rw [← append_assoc, append_node] at ih
            omega
          · have ih := leastCost_le_append W V A₁ B₁
            have step := leastCost_match_le A₁ a A₂ B₁ b B₂
            omega
termination_by A.size + B.size
decreasing_by
  all_goals simp only [size_append, size_node]
  all_goals omega

/-- A common beginning can be left out. -/
theorem leastCost_le_append_self (W A B : Grove α) :
    leastCost A B ≤ leastCost (W ++ A) (W ++ B) := by
  have h := leastCost_le_append W W A B
  rwa [leastCost_self] at h

end SideBySide

end Grove
end Likeness
