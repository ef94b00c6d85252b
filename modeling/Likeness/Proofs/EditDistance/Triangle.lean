import Likeness.Proofs.EditDistance.Landing

/-!
# The triangle inequality

The triangle inequality is proved by induction on the number of nodes of the three forests
together, hand in hand with the bound on detours.  If a last root is removed on one of the
two legs, the induction hypothesis applies to what is left.  If the last roots are matched on
both legs, the costs of the two matches beyond the distance without the roots are compared
with two, which is what giving up both outer roots costs.

**Main statements.**
* `Grove.distance_triangle`: the triangle inequality.
-/

namespace Likeness
namespace Grove

variable {α : Type} [DecidableEq α] {n : Nat}

section Matches

variable (tri : TriangleUpTo α n) {W V U A B C : Grove α} {p q r : α}
  (small : (node W p A).size + (node U q B).size + (node V r C).size ≤ n + 1)
include tri small

/-- Both outer roots are given up. -/
theorem distance_match_le_of_far (far : distance (W ++ A) (U ++ B) + distance (U ++ B) (V ++ C)
      + 2 ≤ distance (node W p A) (node U q B) + distance (node U q B) (node V r C)) :
    distance (node W p A) (node V r C)
      ≤ distance (node W p A) (node U q B) + distance (node U q B) (node V r C) := by
  have h1 := distance_delete_le W p A (node V r C)
  have h2 := distance_insert_le (W ++ A) V r C
  have h3 := tri (W ++ A) (U ++ B) (V ++ C)
    (by simp only [size_append, size_node] at small ⊢; omega)
  omega

/-- The last roots are matched on both legs, and on the first leg nothing is kept below
them. -/
theorem distance_match_le_of_removed
    (h : distance (node W p A) (node U q B) = distance W U + (A.size + B.size) + relabel p q)
    (h' : distance (node U q B) (node V r C)
      = distance U V + distanceBelow U V B C + relabel q r) :
    distance (node W p A) (node V r C)
      ≤ distance (node W p A) (node U q B) + distance (node U q B) (node V r C) := by
  have h1 := distance_match_le W p A V r C
  have h2 := distanceBelow_le W V A C
  have h3 := tri W U V (by simp only [size_node] at small ⊢; omega)
  have h4 := relabel_triangle p q r
  rcases distance_le_distanceBelow U V B C with removed | kept
  · omega
  by_cases hB : B = nil
  · subst hB
    simp only [distanceBelow_nil_left, size_nil] at h h'
    omega
  by_cases same : distance U V + relabel q r = 0
  · -- the forests below the roots differ by their sizes at least
    have h5 := size_le_distance' (U ++ B) (V ++ C)
    obtain rfl := eq_of_distance_eq_zero (X := U) (Y := V) (by omega)
    simp only [size_append] at h5
    omega
  · -- a leaf below the root in the middle takes the place of the root on the left
    have h5 := tri (node W p A) (U ++ B) (V ++ C)
      (by simp only [size_append, size_node] at small ⊢; omega)
    have h6 := distance_append_node_le U W hB p A
    have h7 := distance_insert_le (node W p A) V r C
    rw [distance_comm, distance_comm U W] at h6
    omega

end Matches

section Edit

/-- What stands before two roots differs by one edit: the costs of matching the roots, of
giving up both, and of giving up the second one alone. -/
def editedPrice (W V : Grove α) (p : α) (A C : Grove α) : Nat :=
  min (1 + distanceBelow W V A C)
    (min (distance (W ++ A) (V ++ C) + 2) (distance (node W p A) (V ++ C) + 1))

theorem distance_le_editedPrice {W V : Grove α} (one : distance W V = 1) (p : α)
    (A C : Grove α) : distance (node W p A) (node V p C) ≤ editedPrice W V p A C := by
  have h1 := distance_match_le W p A V p C
  have h2 := distance_delete_le W p A (node V p C)
  have h3 := distance_insert_le (W ++ A) V p C
  have h4 := distance_insert_le (node W p A) V p C
  rw [relabel_self, one] at h1
  unfold editedPrice
  omega

theorem climb_editedPrice (W V : Grove α) (p : α) (A : Grove α) :
    Climb W V A (editedPrice W V p A) where
  nil_le := by
    simp only [editedPrice, distanceBelow_nil_right]
    omega
  step_le C₁ c C₂ := by
    have h1 := distanceBelow_insert_le W V A C₁ c C₂
    have h2 := distance_insert_le (W ++ A) (V ++ C₁) c C₂
    have h3 := distance_insert_le (node W p A) (V ++ C₁) c C₂
    simp only [editedPrice, append_assoc, append_node] at h2 h3 ⊢
    omega
  le C := by
    unfold editedPrice
    omega
  same_le C₁ c C₂ eq := by
    have h1 := distance_match_le W p A W c C₂
    have h2 := relabel_le_one p c
    rw [distance_self] at h1
    rw [editedPrice, append_node, ← eq]
    omega

variable (tri : TriangleUpTo α n) (det : DetourBelow α n)
include tri det

/-- What stands before the roots is the same on the first leg and differs by one edit on the
second one, and on both legs something is kept below the roots. -/
theorem distance_match_le_of_edit {W V A B C : Grove α} {p : α} (one : distance W V = 1)
    (small : (node W p A).size + (node W p B).size + (node V p C).size ≤ n + 1)
    (kept : distanceBelow W W A B ≠ A.size + B.size)
    (kept' : distanceBelow W V B C ≠ B.size + C.size)
    (near : distance (W ++ B) (V ++ C) + 2 > 1 + distanceBelow W V B C) :
    distance (node W p A) (node V p C)
      ≤ distanceBelow W W A B + (1 + distanceBelow W V B C) := by
  have ne : W ≠ V := by
    rintro rfl
    rw [distance_self] at one
    omega
  have matched := distance_match_le W p A V p C
  rw [relabel_self, one] at matched
  have removed := distance_delete_le W p A (node V p C)
  have removed' := distance_insert_le (W ++ A) V p C
  rcases distanceBelow_cases W W A B with h | ⟨U, a, A', U', q, Q, hA, hQ, h⟩
  · exact absurd h kept
  rcases distanceBelow_cases_of_ne ne B C with h' | h' | ⟨-, b, B', c, C', hB, hC, h'⟩
  · exact absurd h' kept'
  · rw [one] at h'
    omega
  have leA := hA.size_le
  have leQ := hQ.size_le
  have leB := hB.size_le
  have leC := hC.size_le
  rcases Nat.eq_zero_or_pos (distanceBelow W W U U') with zero | pos
  · obtain rfl := (eq_of_distanceBelow_eq_zero W W U U' zero).1
    rw [zero] at h
    by_cases hU : U = nil
    · -- the landings of the two legs start at the same place
      subst hU
      have h1 := distanceBelow_landing_le W V hA hC
      have h2 := distance_through tri (hQ.append_left W) (hB.append_left W)
        (W ++ node nil a A') (V ++ node nil c C')
        (by simp only [append_node, append_nil, size_append, size_node, size_nil] at *; omega)
      simp only [append_node, append_nil, size_append, size_node, size_nil,
        distanceBelow_nil_left] at *
      omega
    · rcases hB.apart_or_within hQ (by simpa using size_pos hU) with apart | ⟨Y, hY, within⟩
      · -- the landing of the second leg stands also on the side of `A`
        have onA := (apart.trans (Initial.before U a A')).trans hA
        have h1 := distanceBelow_landing_le W V onA hC
        have h2 := size_le_distanceBelow W A B
        simp only [append_node, append_nil, size_node, size_nil,
          distanceBelow_nil_left] at *
        omega
      · rw [nil_append] at hY
        subst hY
        have close := size_le_distance' W V
        have h1 := distance_le_editedPrice one p A C
        have h2 := hC.cost_le _ (climb_editedPrice W V p A).step_le
        have h3 := (climb_editedPrice W V p A).cost_le det tri
          (by omega) b within.ne_nil (node nil c C')
          (by simp only [append_node, append_nil, size_append, size_node, size_nil] at *; omega)
        have h4 := distanceBelow_landing_le W W hA within
        rw [zero] at h4
        simp only [append_node, append_nil, size_node, size_nil] at *
        omega
  · -- both legs are dearer without the roots
    have h1 := distance_append_initials_le W W hA hQ
    have h2 := tri (W ++ A) (W ++ B) (V ++ C)
      (by simp only [size_append, size_node] at small ⊢; omega)
    have h3 := (distance_le_distanceBelow W V B C).resolve_left kept'
    omega

/-- The last roots are matched on both legs. -/
theorem distance_match_le_of_matches {W U V A B C : Grove α} {p q r : α}
    (small : (node W p A).size + (node U q B).size + (node V r C).size ≤ n + 1)
    (h : distance (node W p A) (node U q B)
      = distance W U + distanceBelow W U A B + relabel p q)
    (h' : distance (node U q B) (node V r C)
      = distance U V + distanceBelow U V B C + relabel q r) :
    distance (node W p A) (node V r C)
      ≤ distance (node W p A) (node U q B) + distance (node U q B) (node V r C) := by
  have small' : (node V r C).size + (node U q B).size + (node W p A).size ≤ n + 1 := by omega
  have swap : distance (node W p A) (node V r C) = distance (node V r C) (node W p A) :=
    distance_comm _ _
  have swap₁ : distance (node W p A) (node U q B) = distance (node U q B) (node W p A) :=
    distance_comm _ _
  have swap₂ : distance (node U q B) (node V r C) = distance (node V r C) (node U q B) :=
    distance_comm _ _
  by_cases removed : distanceBelow W U A B = A.size + B.size
  · exact distance_match_le_of_removed tri small (removed ▸ h) h'
  by_cases removed' : distanceBelow V U C B = C.size + B.size
  · rw [swap₂, distance_comm U V, distanceBelow_comm U V, removed', relabel_comm] at h'
    rw [swap₁, distance_comm W U, distanceBelow_comm W U, relabel_comm] at h
    rw [swap, swap₁, swap₂, Nat.add_comm]
    exact distance_match_le_of_removed tri small' h' h
  have kept := (distance_le_distanceBelow W U A B).resolve_left removed
  have kept' := (distance_le_distanceBelow V U C B).resolve_left removed'
  by_cases far : distance (W ++ A) (U ++ B) + distance (U ++ B) (V ++ C) + 2
      ≤ distance (node W p A) (node U q B) + distance (node U q B) (node V r C)
  · exact distance_match_le_of_far tri small far
  rw [distance_comm (V ++ C)] at kept'
  rw [distanceBelow_comm V U] at kept' removed'
  by_cases same : distance W U = 0
  · obtain rfl := eq_of_distance_eq_zero same
    by_cases same' : distance W V = 0
    · -- the same stands before all three roots
      obtain rfl := eq_of_distance_eq_zero same'
      have h1 := distance_match_le W p A W r C
      have h2 := relabel_triangle p q r
      have h3 := distance_delete_le W p A (node W r C)
      have h4 := distance_insert_le (W ++ A) W r C
      rw [distance_self] at h h' h1
      rcases det W A B C (by simp only [size_append, size_node] at small ⊢; omega) with h5 | h5
      · omega
      · omega
    · obtain rfl : p = q := eq_of_relabel_eq_zero (by omega)
      obtain rfl : p = r := eq_of_relabel_eq_zero (by omega)
      have h1 := distance_match_le_of_edit tri det (by omega) small removed (by omega) (by omega)
      omega
  · obtain rfl : U = V := eq_of_distance_eq_zero (by omega)
    obtain rfl : p = q := eq_of_relabel_eq_zero (by omega)
    obtain rfl : p = r := eq_of_relabel_eq_zero (by omega)
    have h1 := distance_match_le_of_edit tri det (V := W) (A := C) (B := B) (C := A)
      (p := p) (by rw [distance_comm]; omega) small'
      (by rw [distanceBelow_comm]; omega) (by rw [distanceBelow_comm]; omega)
      (by rw [distance_comm, distanceBelow_comm]; omega)
    rw [distanceBelow_comm U U, distanceBelow_comm U W] at h1
    omega

end Edit

/-- The triangle inequality for one node more. -/
theorem TriangleUpTo.step (tri : TriangleUpTo α n) (det : DetourBelow α n) :
    TriangleUpTo α (n + 1) := by
  intro X Y Z small
  match X, Y, Z with
  | nil, Y, Z =>
      have h := size_le_distance' Y Z
      simp only [distance_nil_left]
      omega
  | X, nil, Z =>
      have h := distance_le X Z
      simp only [distance_nil_left, distance_nil_right]
      omega
  | X, Y, nil =>
      have h := size_le_distance X Y
      simp only [distance_nil_right]
      omega
  | node W p A, node U q B, node V r C =>
      rcases distance_cases W p A U q B with h | h | h
      · have ih := tri (W ++ A) (node U q B) (node V r C)
          (by simp only [size_append, size_node] at small ⊢; omega)
        have h1 := distance_delete_le W p A (node V r C)
        omega
      · rcases distance_cases U q B V r C with h' | h' | h'
        · have ih := tri (node W p A) (U ++ B) (node V r C)
            (by simp only [size_append, size_node] at small ⊢; omega)
          omega
        · have ih := tri (node W p A) (node U q B) (V ++ C)
            (by simp only [size_append, size_node] at small ⊢; omega)
          have h1 := distance_insert_le (node W p A) V r C
          omega
        · -- the root matched on the second leg only is removed in the end
          have ih := tri (node W p A) (U ++ B) (V ++ C)
            (by simp only [size_append, size_node] at small ⊢; omega)
          have h1 := distance_insert_le (node W p A) V r C
          have h2 := distance_append_le U V B C
          omega
      · rcases distance_cases U q B V r C with h' | h' | h'
        · -- the root matched on the first leg only is removed in the end
          have ih := tri (W ++ A) (U ++ B) (node V r C)
            (by simp only [size_append, size_node] at small ⊢; omega)
          have h1 := distance_delete_le W p A (node V r C)
          have h2 := distance_append_le W U A B
          omega
        · have ih := tri (node W p A) (node U q B) (V ++ C)
            (by simp only [size_append, size_node] at small ⊢; omega)
          have h1 := distance_insert_le (node W p A) V r C
          omega
        · exact distance_match_le_of_matches tri det small h h'

theorem triangleUpTo_and_detourBelow (n : Nat) : TriangleUpTo α n ∧ DetourBelow α n := by
  induction n with
  | zero =>
      constructor
      · intro X Y Z small
        have hX : X = nil := eq_nil_of_size (by omega)
        have hZ : Z = nil := eq_nil_of_size (by omega)
        rw [hX, hZ, distance_self]
        exact Nat.zero_le _
      · intro W A B C lt
        exact absurd lt (Nat.not_lt_zero _)
  | succ n ih => exact ⟨ih.1.step ih.2, ih.2.step ih.1⟩

/-- The distance of two forests is no more than the way over a third one. -/
theorem distance_triangle (X Y Z : Grove α) : distance X Z ≤ distance X Y + distance Y Z :=
  (triangleUpTo_and_detourBelow _).1 X Y Z (Nat.le_refl _)

end Grove
end Likeness
