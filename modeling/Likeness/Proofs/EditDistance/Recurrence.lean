import Likeness.Proofs.EditDistance.Grove

/-!
# The recurrence of the edit distance

The distance of two forests compares their last trees.  Either last root is removed, at the
cost of one, or the two roots are matched.  A match costs the distance of what stands before
the two trees, the relabelling of the roots, and the distance of the forests below them.

The forests below are compared by a recurrence of their own, `distanceBelow`, which knows
what stands before them.  When it matches two last trees, it adds the distance of everything
up to and including these trees, and not of the two trees alone.  The distance is therefore
not the least cost of an edit script; see `Likeness.Proofs.EditDistance.Understatement`.

**Main statements.**
* `Grove.distance_comm`: the distance is symmetric.
* `Grove.distanceBelow_cases`: the cheapest way through the forests below two roots either
  removes everything or lands on two last trees.
* `Grove.distance_le_distanceBelow`: comparing the forests below two roots costs at least as
  much as comparing everything up to these roots.
* `Grove.eq_of_distance_eq_zero`: the distance is zero for equal forests only.
-/

namespace Likeness
namespace Grove

variable {α : Type} [DecidableEq α]

/-- Cost of putting one label in the place of another. -/
def relabel (p q : α) : Nat :=
  if p = q then 0 else 1

mutual

/-- Distance of two forests. -/
def distance : Grove α → Grove α → Nat
  | nil, Y => Y.size
  | node W p U, nil => (node W p U).size
  | node W p U, node V q S =>
      min (min (distance (W ++ U) (node V q S) + 1) (distance (node W p U) (V ++ S) + 1))
        (distance W V + distanceBelow W V U S + relabel p q)
termination_by X Y => 2 * (X.size + Y.size)
decreasing_by
  all_goals simp only [size_append, size_node]
  all_goals omega

/-- Distance of the forests below two roots before which `W` and `V` stand. -/
def distanceBelow (W V : Grove α) : Grove α → Grove α → Nat
  | nil, S => S.size
  | node U₁ p U₂, nil => (node U₁ p U₂).size
  | node U₁ p U₂, node S₁ q S₂ =>
      min
        (min (distanceBelow W V (U₁ ++ U₂) (node S₁ q S₂) + 1)
          (distanceBelow W V (node U₁ p U₂) (S₁ ++ S₂) + 1))
        (distanceBelow W V U₁ S₁
          + distance (W ++ node U₁ p U₂) (V ++ node S₁ q S₂))
termination_by U S => 2 * (W.size + U.size + (V.size + S.size)) + 1
decreasing_by
  all_goals simp only [size_append, size_node]
  all_goals omega

end

section Unfolding

@[simp] theorem distance_nil_left (Y : Grove α) : distance nil Y = Y.size := by
  rw [distance]

@[simp] theorem distance_nil_right (X : Grove α) : distance X nil = X.size := by
  cases X <;> rw [distance]

@[simp] theorem distanceBelow_nil_left (W V S : Grove α) :
    distanceBelow W V nil S = S.size := by
  rw [distanceBelow]

@[simp] theorem distanceBelow_nil_right (W V U : Grove α) :
    distanceBelow W V U nil = U.size := by
  cases U <;> rw [distanceBelow]

theorem relabel_self (p : α) : relabel p p = 0 := if_pos rfl

theorem relabel_le_one (p q : α) : relabel p q ≤ 1 := by
  unfold relabel
  split <;> decide

theorem relabel_comm (p q : α) : relabel p q = relabel q p := by
  unfold relabel
  simp only [eq_comm]

theorem eq_of_relabel_eq_zero {p q : α} (h : relabel p q = 0) : p = q := by
  by_contra ne
  rw [relabel, if_neg ne] at h
  exact absurd h (by decide)

theorem relabel_triangle (p q r : α) : relabel p r ≤ relabel p q + relabel q r := by
  by_cases h : p = q
  · subst h
    exact Nat.le_add_left _ _
  · have h1 : relabel p q = 1 := if_neg h
    have h2 := relabel_le_one p r
    omega

/-- Removing the last root on the left. -/
theorem distance_delete_le (W : Grove α) (p : α) (U Y : Grove α) :
    distance (node W p U) Y ≤ distance (W ++ U) Y + 1 := by
  cases Y with
  | nil => simp
  | node V q S =>
      rw [distance]
      omega

/-- Removing the last root on the right. -/
theorem distance_insert_le (X V : Grove α) (q : α) (S : Grove α) :
    distance X (node V q S) ≤ distance X (V ++ S) + 1 := by
  cases X with
  | nil => simp
  | node W p U =>
      rw [distance]
      omega

/-- Matching the two last roots. -/
theorem distance_match_le (W : Grove α) (p : α) (U V : Grove α) (q : α) (S : Grove α) :
    distance (node W p U) (node V q S)
      ≤ distance W V + distanceBelow W V U S + relabel p q := by
  rw [distance]
  omega

/-- The distance is reached in one of the three ways. -/
theorem distance_cases (W : Grove α) (p : α) (U V : Grove α) (q : α) (S : Grove α) :
    distance (node W p U) (node V q S) = distance (W ++ U) (node V q S) + 1
      ∨ distance (node W p U) (node V q S) = distance (node W p U) (V ++ S) + 1
      ∨ distance (node W p U) (node V q S)
          = distance W V + distanceBelow W V U S + relabel p q := by
  rw [distance]
  omega

variable (W V : Grove α)

theorem distanceBelow_delete_le (U₁ : Grove α) (p : α) (U₂ S : Grove α) :
    distanceBelow W V (node U₁ p U₂) S ≤ distanceBelow W V (U₁ ++ U₂) S + 1 := by
  cases S with
  | nil => simp
  | node S₁ q S₂ =>
      rw [distanceBelow]
      omega

theorem distanceBelow_insert_le (U S₁ : Grove α) (q : α) (S₂ : Grove α) :
    distanceBelow W V U (node S₁ q S₂) ≤ distanceBelow W V U (S₁ ++ S₂) + 1 := by
  cases U with
  | nil => simp
  | node U₁ p U₂ =>
      rw [distanceBelow]
      omega

theorem distanceBelow_match_le (U₁ : Grove α) (p : α) (U₂ S₁ : Grove α) (q : α)
    (S₂ : Grove α) :
    distanceBelow W V (node U₁ p U₂) (node S₁ q S₂)
      ≤ distanceBelow W V U₁ S₁ + distance (W ++ node U₁ p U₂) (V ++ node S₁ q S₂) := by
  rw [distanceBelow]
  omega

theorem distanceBelow_three_ways (U₁ : Grove α) (p : α) (U₂ S₁ : Grove α) (q : α)
    (S₂ : Grove α) :
    distanceBelow W V (node U₁ p U₂) (node S₁ q S₂)
        = distanceBelow W V (U₁ ++ U₂) (node S₁ q S₂) + 1
      ∨ distanceBelow W V (node U₁ p U₂) (node S₁ q S₂)
          = distanceBelow W V (node U₁ p U₂) (S₁ ++ S₂) + 1
      ∨ distanceBelow W V (node U₁ p U₂) (node S₁ q S₂)
          = distanceBelow W V U₁ S₁ + distance (W ++ node U₁ p U₂) (V ++ node S₁ q S₂) := by
  rw [distanceBelow]
  omega

end Unfolding

section Symmetry

mutual

theorem distance_le_swap (X Y : Grove α) : distance X Y ≤ distance Y X := by
  match X, Y with
  | nil, Y => simp
  | node W p U, nil => simp
  | node W p U, node V q S =>
      rcases distance_cases V q S W p U with h | h | h
      · have ih := distance_le_swap (node W p U) (V ++ S)
        have step := distance_insert_le (node W p U) V q S
        omega
      · have ih := distance_le_swap (W ++ U) (node V q S)
        have step := distance_delete_le W p U (node V q S)
        omega
      · have ih := distance_le_swap W V
        have ih' := distanceBelow_le_swap W V U S
        have step := distance_match_le W p U V q S
        rw [relabel_comm q p] at h
        omega
termination_by 2 * (X.size + Y.size)
decreasing_by
  all_goals simp only [size_append, size_node]
  all_goals omega

theorem distanceBelow_le_swap (W V U S : Grove α) :
    distanceBelow W V U S ≤ distanceBelow V W S U := by
  match U, S with
  | nil, S => simp
  | node U₁ p U₂, nil => simp
  | node U₁ p U₂, node S₁ q S₂ =>
      rcases distanceBelow_three_ways V W S₁ q S₂ U₁ p U₂ with h | h | h
      · have ih := distanceBelow_le_swap W V (node U₁ p U₂) (S₁ ++ S₂)
        have step := distanceBelow_insert_le W V (node U₁ p U₂) S₁ q S₂
        omega
      · have ih := distanceBelow_le_swap W V (U₁ ++ U₂) (node S₁ q S₂)
        have step := distanceBelow_delete_le W V U₁ p U₂ (node S₁ q S₂)
        omega
      · have ih := distanceBelow_le_swap W V U₁ S₁
        have ih' := distance_le_swap (W ++ node U₁ p U₂) (V ++ node S₁ q S₂)
        have step := distanceBelow_match_le W V U₁ p U₂ S₁ q S₂
        omega
termination_by 2 * (W.size + U.size + (V.size + S.size)) + 1
decreasing_by
  all_goals simp only [size_append, size_node]
  all_goals omega

end

/-- The distance of two forests does not depend on their order. -/
theorem distance_comm (X Y : Grove α) : distance X Y = distance Y X :=
  Nat.le_antisymm (distance_le_swap X Y) (distance_le_swap Y X)

theorem distanceBelow_comm (W V U S : Grove α) :
    distanceBelow W V U S = distanceBelow V W S U :=
  Nat.le_antisymm (distanceBelow_le_swap W V U S) (distanceBelow_le_swap V W S U)

end Symmetry

section Bounds

mutual

theorem distance_self (X : Grove α) : distance X X = 0 := by
  match X with
  | nil => simp
  | node W p U =>
      have h := distance_match_le W p U W p U
      rw [distance_self W, distanceBelow_self W U, relabel_self] at h
      exact Nat.eq_zero_of_le_zero h
termination_by 2 * (X.size + X.size)
decreasing_by
  all_goals simp only [size_node]
  all_goals omega

theorem distanceBelow_self (W U : Grove α) : distanceBelow W W U U = 0 := by
  match U with
  | nil => simp
  | node U₁ p U₂ =>
      have h := distanceBelow_match_le W W U₁ p U₂ U₁ p U₂
      rw [distanceBelow_self W U₁, distance_self (W ++ node U₁ p U₂)] at h
      exact Nat.eq_zero_of_le_zero h
termination_by 2 * (W.size + U.size + (W.size + U.size)) + 1
decreasing_by
  all_goals simp only [size_append, size_node]
  all_goals omega

end

/-- Removing some last roots on the left costs at most one for each. -/
theorem distance_initial_le {X' X : Grove α} (h : Initial X' X) (Y : Grove α) :
    distance X Y + X'.size ≤ distance X' Y + X.size :=
  h.cost_le (fun X => distance X Y)
    (fun W p U => distance_delete_le W p U Y)

/-- Removing some last roots on the right costs at most one for each. -/
theorem distance_initial_le' (X : Grove α) {Y' Y : Grove α} (h : Initial Y' Y) :
    distance X Y + Y'.size ≤ distance X Y' + Y.size := by
  rw [distance_comm X Y, distance_comm X Y']
  exact distance_initial_le h X

theorem distance_le (X Y : Grove α) : distance X Y ≤ X.size + Y.size := by
  have h := distance_initial_le (Initial.of_nil X) Y
  simp only [distance_nil_left, size_nil] at h
  omega

variable (W V : Grove α)

theorem distanceBelow_initial_le {U' U : Grove α} (h : Initial U' U) (S : Grove α) :
    distanceBelow W V U S + U'.size ≤ distanceBelow W V U' S + U.size :=
  h.cost_le (fun U => distanceBelow W V U S)
    (fun U₁ p U₂ => distanceBelow_delete_le W V U₁ p U₂ S)

theorem distanceBelow_initial_le' (U : Grove α) {S' S : Grove α} (h : Initial S' S) :
    distanceBelow W V U S + S'.size ≤ distanceBelow W V U S' + S.size := by
  rw [distanceBelow_comm W V U S, distanceBelow_comm W V U S']
  exact distanceBelow_initial_le V W h U

/-- Removing some last roots on both sides. -/
theorem distanceBelow_initials_le {U' U S' S : Grove α} (hU : Initial U' U)
    (hS : Initial S' S) :
    distanceBelow W V U S + U'.size + S'.size ≤ distanceBelow W V U' S' + U.size + S.size := by
  have h1 := distanceBelow_initial_le W V hU S
  have h2 := distanceBelow_initial_le' W V U' hS
  omega

/-- Removing some last roots on both sides, of which others are left. -/
theorem distance_append_initials_le {U' U S' S : Grove α} (hU : Initial U' U)
    (hS : Initial S' S) :
    distance (W ++ U) (V ++ S) + U'.size + S'.size
      ≤ distance (W ++ U') (V ++ S') + U.size + S.size := by
  have h1 := distance_initial_le (hU.append_left W) (V ++ S)
  have h2 := distance_initial_le' (W ++ U') (hS.append_left V)
  simp only [size_append] at h1 h2
  omega

theorem distanceBelow_le (U S : Grove α) : distanceBelow W V U S ≤ U.size + S.size := by
  have h := distanceBelow_initial_le W V (Initial.of_nil U) S
  simp only [distanceBelow_nil_left, size_nil] at h
  omega

/-- Everything up to two roots is no further apart than what stands before the roots and
what stands below them. -/
theorem distance_append_le (U S : Grove α) :
    distance (W ++ U) (V ++ S) ≤ distance W V + distanceBelow W V U S := by
  match U, S with
  | nil, S =>
      have h := distance_initial_le' W (Initial.append_right V S)
      simp only [append_nil, distanceBelow_nil_left, size_append] at h ⊢
      omega
  | node U₁ p U₂, nil =>
      have h := distance_initial_le (Initial.append_right W (node U₁ p U₂)) V
      simp only [append_nil, distanceBelow_nil_right, size_append] at h ⊢
      omega
  | node U₁ p U₂, node S₁ q S₂ =>
      rcases distanceBelow_three_ways W V U₁ p U₂ S₁ q S₂ with h | h | h
      · have ih := distance_append_le (U₁ ++ U₂) (node S₁ q S₂)
        have step := distance_delete_le (W ++ U₁) p U₂ (V ++ node S₁ q S₂)
        rw [← append_assoc] at ih
        rw [append_node W]
        omega
      · have ih := distance_append_le (node U₁ p U₂) (S₁ ++ S₂)
        have step := distance_insert_le (W ++ node U₁ p U₂) (V ++ S₁) q S₂
        rw [← append_assoc] at ih
        rw [append_node V]
        omega
      · omega
termination_by U.size + S.size
decreasing_by
  all_goals simp only [size_append, size_node]
  all_goals omega

theorem distance_append_self_le (U S : Grove α) :
    distance (W ++ U) (W ++ S) ≤ distanceBelow W W U S := by
  have h := distance_append_le W W U S
  rwa [distance_self, Nat.zero_add] at h

end Bounds

section Landing

variable (W V : Grove α)

/-- The cheapest way through the forests below two roots removes everything, or it lands on
two last trees: whatever comes after them is removed, they are matched, and what stands
before them is compared on its own. -/
theorem distanceBelow_cases (U S : Grove α) :
    distanceBelow W V U S = U.size + S.size
      ∨ ∃ P p P' Q q Q', Initial (node P p P') U ∧ Initial (node Q q Q') S
        ∧ distanceBelow W V U S + (node P p P').size + (node Q q Q').size
            = distanceBelow W V P Q + distance (W ++ node P p P') (V ++ node Q q Q')
              + U.size + S.size := by
  match U, S with
  | nil, S => left; simp
  | node U₁ p U₂, nil => left; simp
  | node U₁ p U₂, node S₁ q S₂ =>
      rcases distanceBelow_three_ways W V U₁ p U₂ S₁ q S₂ with h | h | h
      · rcases distanceBelow_cases (U₁ ++ U₂) (node S₁ q S₂) with
          ih | ⟨P, r, P', Q, t, Q', hP, hQ, ih⟩
        · left
          simp only [size_append, size_node] at ih ⊢
          omega
        · refine Or.inr ⟨P, r, P', Q, t, Q', Initial.step hP, hQ, ?_⟩
          simp only [size_append, size_node] at ih ⊢
          omega
      · rcases distanceBelow_cases (node U₁ p U₂) (S₁ ++ S₂) with
          ih | ⟨P, r, P', Q, t, Q', hP, hQ, ih⟩
        · left
          simp only [size_append, size_node] at ih ⊢
          omega
        · refine Or.inr ⟨P, r, P', Q, t, Q', hP, Initial.step hQ, ?_⟩
          simp only [size_append, size_node] at ih ⊢
          omega
      · exact Or.inr ⟨U₁, p, U₂, S₁, q, S₂, Initial.refl, Initial.refl, by omega⟩
termination_by U.size + S.size
decreasing_by
  all_goals simp only [size_append, size_node]
  all_goals omega

/-- Landing on two last trees is one of the ways. -/
theorem distanceBelow_landing_le {U S P Q P' Q' : Grove α} {p q : α}
    (hP : Initial (node P p P') U) (hQ : Initial (node Q q Q') S) :
    distanceBelow W V U S + (node P p P').size + (node Q q Q').size
      ≤ distanceBelow W V P Q + distance (W ++ node P p P') (V ++ node Q q Q')
        + U.size + S.size := by
  have h1 := distanceBelow_initials_le W V hP hQ
  have h2 := distanceBelow_match_le W V P p P' Q q Q'
  omega

/-- Unless everything is removed, comparing the forests below two roots costs at least as
much as comparing everything up to these roots. -/
theorem distance_le_distanceBelow (U S : Grove α) :
    distanceBelow W V U S = U.size + S.size
      ∨ distance (W ++ U) (V ++ S) ≤ distanceBelow W V U S := by
  rcases distanceBelow_cases W V U S with h | ⟨P, p, P', Q, q, Q', hP, hQ, h⟩
  · exact Or.inl h
  · right
    have h1 := distance_append_initials_le W V hP hQ
    omega

/-- The ways through two pairs of forests make a way through the pairs side by side. -/
theorem distanceBelow_append_le (U S U' S' : Grove α) :
    distanceBelow W V (U ++ U') (S ++ S')
      ≤ distanceBelow W V U S + distanceBelow (W ++ U) (V ++ S) U' S' := by
  match U', S' with
  | nil, S' =>
      have h := distanceBelow_initial_le' W V U (Initial.append_right S S')
      simp only [append_nil, distanceBelow_nil_left, size_append] at h ⊢
      omega
  | node U₁ p U₂, nil =>
      have h := distanceBelow_initial_le W V (Initial.append_right U (node U₁ p U₂)) S
      simp only [append_nil, distanceBelow_nil_right, size_append] at h ⊢
      omega
  | node U₁ p U₂, node S₁ q S₂ =>
      rcases distanceBelow_three_ways (W ++ U) (V ++ S) U₁ p U₂ S₁ q S₂ with h | h | h
      · have ih := distanceBelow_append_le U S (U₁ ++ U₂) (node S₁ q S₂)
        have step := distanceBelow_delete_le W V (U ++ U₁) p U₂ (S ++ node S₁ q S₂)
        rw [← append_assoc] at ih
        rw [append_node U]
        omega
      · have ih := distanceBelow_append_le U S (node U₁ p U₂) (S₁ ++ S₂)
        have step := distanceBelow_insert_le W V (U ++ node U₁ p U₂) (S ++ S₁) q S₂
        rw [← append_assoc] at ih
        rw [append_node S]
        omega
      · have ih := distanceBelow_append_le U S U₁ S₁
        have step := distanceBelow_match_le W V (U ++ U₁) p U₂ (S ++ S₁) q S₂
        rw [← append_node, ← append_node, ← append_assoc, ← append_assoc] at step
        omega
termination_by U'.size + S'.size
decreasing_by
  all_goals simp only [size_append, size_node]
  all_goals omega

/-- A common beginning of the forests below two roots counts as standing before the roots. -/
theorem distanceBelow_append_self_le (U A B : Grove α) :
    distanceBelow W W (U ++ A) (U ++ B) ≤ distanceBelow (W ++ U) (W ++ U) A B := by
  have h := distanceBelow_append_le W W U U A B
  rwa [distanceBelow_self, Nat.zero_add] at h

end Landing

section LowerBounds

/-- The distance is at least the difference of the sizes. -/
theorem size_le_distance (X Y : Grove α) : X.size ≤ Y.size + distance X Y := by
  match X, Y with
  | nil, Y => exact Nat.zero_le _
  | node W p U, nil => simp
  | node W p U, node V q S =>
      rcases distance_cases W p U V q S with h | h | h
      · have ih := size_le_distance (W ++ U) (node V q S)
        simp only [size_append, size_node] at ih ⊢
        omega
      · have ih := size_le_distance (node W p U) (V ++ S)
        simp only [size_append, size_node] at ih ⊢
        omega
      · have ih := size_le_distance (W ++ U) (V ++ S)
        have step := distance_append_le W V U S
        simp only [size_append, size_node] at ih ⊢
        omega
termination_by X.size + Y.size
decreasing_by
  all_goals simp only [size_append, size_node]
  all_goals omega

/-- The distance is at least the difference of the sizes. -/
theorem size_le_distance' (X Y : Grove α) : Y.size ≤ X.size + distance X Y := by
  rw [distance_comm]
  exact size_le_distance Y X

/-- Below two roots before which the same stands, the sizes differ by no more than what the
comparison costs. -/
theorem size_le_distanceBelow (W U S : Grove α) : U.size ≤ S.size + distanceBelow W W U S := by
  have h1 := distance_append_self_le W U S
  have h2 := size_le_distance (W ++ U) (W ++ S)
  simp only [size_append] at h2
  omega

theorem size_le_distanceBelow' (W U S : Grove α) : S.size ≤ U.size + distanceBelow W W U S := by
  rw [distanceBelow_comm]
  exact size_le_distanceBelow W S U

mutual

/-- Only equal forests have distance zero. -/
theorem eq_of_distance_eq_zero {X Y : Grove α} (h : distance X Y = 0) : X = Y := by
  match X, Y with
  | nil, Y => exact (eq_nil_of_size (by simpa using h)).symm
  | node W p U, nil => simp at h
  | node W p U, node V q S =>
      rcases distance_cases W p U V q S with h' | h' | h'
      · omega
      · omega
      · have hW : W = V := eq_of_distance_eq_zero (by omega)
        have hU : U = S := (eq_of_distanceBelow_eq_zero W V U S (by omega)).1
        have hp : p = q := eq_of_relabel_eq_zero (by omega)
        rw [hW, hU, hp]
termination_by 2 * (X.size + Y.size)
decreasing_by
  all_goals simp only [size_node]
  all_goals omega

/-- The forests below two roots are free only if they are equal and, unless they are empty,
the same stands before them. -/
theorem eq_of_distanceBelow_eq_zero (W V U S : Grove α) (h : distanceBelow W V U S = 0) :
    U = S ∧ (U = nil ∨ W = V) := by
  rcases distanceBelow_cases W V U S with h' | ⟨P, p, P', Q, q, Q', hP, hQ, h'⟩
  · have hU : U = nil := eq_nil_of_size (by omega)
    have hS : S = nil := eq_nil_of_size (by omega)
    exact ⟨hU.trans hS.symm, Or.inl hU⟩
  · have leP := hP.size_le
    have leQ := hQ.size_le
    have before : P = Q := (eq_of_distanceBelow_eq_zero W V P Q (by omega)).1
    have whole : W ++ node P p P' = V ++ node Q q Q' := eq_of_distance_eq_zero (by omega)
    simp only [append_node, node.injEq] at whole
    obtain ⟨hW, rfl, rfl⟩ := whole
    subst before
    have hU : node P p P' = U := hP.eq_of_size Initial.refl (by omega)
    have hS : node P p P' = S := hQ.eq_of_size Initial.refl (by omega)
    exact ⟨hU.symm.trans hS, Or.inr (append_right_cancel hW)⟩
termination_by 2 * (W.size + U.size + (V.size + S.size)) + 1
decreasing_by
  all_goals simp only [size_append, size_node] at *
  all_goals omega

end

theorem distance_pos {X Y : Grove α} (h : X ≠ Y) : 0 < distance X Y :=
  Nat.pos_of_ne_zero (fun h' => h (eq_of_distance_eq_zero h'))

/-- When different forests stand before two roots, the cheapest way through the forests below
removes everything, or it costs at least two more than comparing everything up to the roots,
or it lands on two trees that come first below their roots. -/
theorem distanceBelow_cases_of_ne {W V : Grove α} (ne : W ≠ V) (U S : Grove α) :
    distanceBelow W V U S = U.size + S.size
      ∨ distance (W ++ U) (V ++ S) + 2 ≤ distance W V + distanceBelow W V U S
      ∨ distance W V = 1 ∧ ∃ p P q Q, Initial (node nil p P) U ∧ Initial (node nil q Q) S
        ∧ distanceBelow W V U S + (node nil p P).size + (node nil q Q).size
            = distance (node W p P) (node V q Q) + U.size + S.size := by
  rcases distanceBelow_cases W V U S with h | ⟨P, p, P', Q, q, Q', hP, hQ, h⟩
  · exact Or.inl h
  · right
    have pos := distance_pos ne
    by_cases zero : distance W V = 1 ∧ distanceBelow W V P Q = 0
    · right
      obtain ⟨rfl, hnil | eq⟩ := eq_of_distanceBelow_eq_zero W V P Q zero.2
      · subst hnil
        refine ⟨zero.1, p, P', q, Q', hP, hQ, ?_⟩
        rw [zero.2] at h
        simp only [append_node, append_nil] at h
        omega
      · exact absurd eq ne
    · left
      have h1 := distance_append_initials_le W V hP hQ
      omega

/-- When a forest on the left is not empty, its first leaf can take the place of a root on
the right, so that one removal less is needed. -/
theorem distance_append_node_le (W V : Grove α) {U : Grove α} (hU : U ≠ nil) (q : α)
    (S : Grove α) :
    distance (W ++ U) (node V q S) ≤ distance W V + U.size + S.size := by
  obtain ⟨p, hp⟩ := Initial.exists_leaf hU
  have h1 := distance_initial_le (hp.append_left W) (node V q S)
  have h2 := distance_match_le W p nil V q S
  have h3 := relabel_le_one p q
  simp only [size_append, size_node, size_nil, append_node, append_nil,
    distanceBelow_nil_left] at h1 h2
  omega

/-- Two forests that are not empty are nearer than removing all of both. -/
theorem distance_append_lt (W V : Grove α) {U S : Grove α} (hU : U ≠ nil) (hS : S ≠ nil) :
    distance (W ++ U) (V ++ S) < distance W V + U.size + S.size := by
  obtain ⟨q, hq⟩ := Initial.exists_leaf hS
  have h1 := distance_initial_le' (W ++ U) (hq.append_left V)
  have h2 := distance_append_node_le W V hU q nil
  simp only [size_append, size_node, size_nil, append_node, append_nil] at h1 h2
  omega

end LowerBounds

end Grove
end Likeness
