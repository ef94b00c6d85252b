import Likeness.Proofs.EditDistance.Detour

/-!
# Detours with two landings

Below three roots with the same beginning `W` stand the forests `A`, `B` and `C`.  The way
from `A` to `B` lands on two last trees with roots `p` and `q`, the way from `B` to `C` on
two last trees with roots `s` and `t`.  The two landings in `B` are compared: they may start
at the same place, stand apart, or stand one within the other.  In each case the detour over
`B` is affordable, and the bound on detours carries over to one node more.

**Main statements.**
* `Grove.affordable_of_landings`: the case in which the same stands before `p` and `q`.
* `Grove.DetourBelow.step`: the bound on detours for one node more.
-/

namespace Likeness
namespace Grove

variable {α : Type} [DecidableEq α]

section Price

/-- The least total with which the forests `A` and `C` can be compared or both roots given
up. -/
def price (W A C : Grove α) : Nat :=
  min (distanceBelow W W A C) (distance (W ++ A) (W ++ C) + 2)

theorem affordable_iff {W A C : Grove α} {total : Nat} :
    Affordable W A C total ↔ price W A C ≤ total := by
  unfold Affordable price
  omega

theorem price_le_distanceBelow (W A C : Grove α) : price W A C ≤ distanceBelow W W A C :=
  Nat.min_le_left _ _

theorem climb_price (W : Grove α) {U V : Grove α} (A : Grove α)
    (gap : distanceBelow W W U V ≤ 1) :
    Climb (W ++ U) (W ++ V) A (fun C => price W (U ++ A) (V ++ C)) where
  nil_le := by
    have h1 := price_le_distanceBelow W (U ++ A) V
    have h2 := distanceBelow_initial_le W W (Initial.append_right U A) V
    simp only [append_nil, size_append] at h2 ⊢
    omega
  step_le C₁ c C₂ := by
    have h1 := distanceBelow_insert_le W W (U ++ A) (V ++ C₁) c C₂
    have h2 := distance_insert_le (W ++ (U ++ A)) (W ++ (V ++ C₁)) c C₂
    simp only [price, append_assoc, append_node] at h1 h2 ⊢
    omega
  le C := by
    simp only [append_assoc]
    exact Nat.min_le_right _ _
  same_le C₁ c C₂ eq := by
    rw [append_assoc] at eq
    obtain rfl := append_left_cancel eq
    have h1 := price_le_distanceBelow W (V ++ C₁ ++ A) (V ++ node C₁ c C₂)
    have h2 := distanceBelow_insert_le W W (V ++ C₁ ++ A) (V ++ C₁) c C₂
    have h3 := distanceBelow_append_self_le W (V ++ C₁) A C₂
    rw [append_node] at h1 ⊢
    omega

end Price

/-- A way to one initial part of a forest goes on from another initial part. -/
theorem distance_through {n : Nat} (tri : TriangleUpTo α n) {B Q S : Grove α}
    (hQ : Initial Q B) (hS : Initial S B) (X Z : Grove α)
    (small : X.size + B.size + Z.size ≤ n) :
    distance X Z + Q.size + S.size ≤ distance X Q + distance S Z + 2 * B.size := by
  have leQ := hQ.size_le
  have leS := hS.size_le
  by_cases le : Q.size ≤ S.size
  · have h1 := distance_initial_le' X (hQ.total hS le)
    have h2 := tri X S Z (by omega)
    omega
  · have h1 := distance_initial_le (hS.total hQ (by omega)) Z
    have h2 := tri X Q Z (by omega)
    omega

/-- If the only difference of two forests is that one has a further leaf at its end, it is
that leaf which is removed. -/
theorem eq_of_distanceBelow_leaf {W U V : Grove α} {l : α}
    (one : distanceBelow W W (node U l nil) V ≤ 1) (shorter : V.size = U.size) : V = U := by
  cases V with
  | nil => exact (eq_nil_of_size shorter.symm).symm
  | node V₁ v V₂ =>
      rcases distanceBelow_three_ways W W U l nil V₁ v V₂ with h | h | h
      · rw [append_nil] at h
        exact (eq_of_distanceBelow_eq_zero W W U (node V₁ v V₂) (by omega)).1.symm
      · have eq := (eq_of_distanceBelow_eq_zero W W (node U l nil) (V₁ ++ V₂) (by omega)).1
        have hs := congrArg size eq
        simp only [size_append, size_node, size_nil] at hs shorter
        omega
      · have h1 := size_le_distance (W ++ node U l nil) (W ++ node V₁ v V₂)
        simp only [size_append, size_node, size_nil] at h1 shorter
        have eq := (eq_of_distanceBelow_eq_zero W W U V₁ (by omega)).1
        have hs := congrArg size eq
        omega

section Landings

variable {n : Nat} {W A B C U P Q U' S V T : Grove α} {p q s t : α} {total : Nat}
  (hP : Initial (node U p P) A) (hQ : Initial (node U q Q) B)
  (hS : Initial (node U' s S) B) (hT : Initial (node V t T) C)
  (enough : distance (node (W ++ U) p P) (node (W ++ U) q Q)
    + distance (node (W ++ U') s S) (node (W ++ V) t T) + distanceBelow W W U' V
    + A.size + 2 * B.size + C.size
      ≤ total + (node U p P).size + (node U q Q).size + (node U' s S).size
        + (node V t T).size)
include hP hQ hS hT enough

omit hS in
/-- The landing on the way to `C` comes to an end before the landing on the way from `A`
starts. -/
theorem affordable_of_before (apart : Initial (node U' s S) U) : Affordable W A C total := by
  have leQ := hQ.size_le
  have h1 := size_le_distance (node (W ++ U) p P) (node (W ++ U) q Q)
  apply Affordable.of_landing ((apart.trans (Initial.before U p P)).trans hP) hT
  simp only [size_append, size_node] at h1 leQ enough ⊢
  omega

omit hQ in
/-- The landing on the way from `A` comes to an end before the landing on the way to `C`
starts, also on the side of `C`. -/
theorem affordable_of_after (apart : Initial (node U q Q) V) : Affordable W A C total := by
  have leS := hS.size_le
  have h1 := size_le_distance' (node (W ++ U') s S) (node (W ++ V) t T)
  have h2 := size_le_distanceBelow' W U' V
  apply Affordable.of_landing hP ((apart.trans (Initial.before V t T)).trans hT)
  rw [distanceBelow_self]
  simp only [size_append, size_node] at h1 leS enough ⊢
  omega

variable (tri : TriangleUpTo α n)
  (small : (W ++ A).size + (W ++ B).size + (W ++ C).size ≤ n)
include tri small

/-- The landings start at the same place. -/
theorem affordable_of_level (eq : distanceBelow W W U V ≤ distanceBelow W W U' V) :
    Affordable W A C total := by
  apply Affordable.of_landing hP hT
  have leP := (hP.append_left W).size_le
  have leT := (hT.append_left W).size_le
  have h := distance_through tri (hQ.append_left W) (hS.append_left W)
    (node (W ++ U) p P) (node (W ++ V) t T)
    (by simp only [append_node, size_append, size_node] at leP leT small ⊢; omega)
  simp only [append_node, size_append, size_node] at h enough ⊢
  omega

variable (det : DetourBelow α n)
include det

/-- The landing on the way from `A` comes to an end before the landing on the way to `C`
starts, and what stands before that one differs by one edit. -/
theorem affordable_of_after_edit (apart : Initial (node U q Q) U')
    (gap : distanceBelow W W U' V = 1) : Affordable W A C total := by
  have leS := hS.size_le
  have leT := hT.size_le
  have leV := hT.of_node_before
  have sizes := size_le_distance' (node (W ++ U') s S) (node (W ++ V) t T)
  by_cases le : T.size ≤ S.size + distance (node (W ++ U') s S) (node (W ++ V) t T)
  · -- the forests before the later landing make a shorter detour
    have h1 := det W A U' V
      (by simp only [size_append, size_node] at leS leT small ⊢; omega)
    have h2 := distanceBelow_landing_le W W hP apart
    rw [distanceBelow_self] at h2
    apply h1.extend Initial.refl leV
    simp only [append_node, size_node] at h2 leS leT enough ⊢
    omega
  · have close := size_le_distanceBelow W U' V
    have close' := size_le_distanceBelow' W U' V
    simp only [size_append, size_node] at sizes
    cases U' with
    | nil =>
        simp only [size_nil] at sizes
        omega
    | node U₁ l L =>
        by_cases hL : L = nil
        · -- a last leaf is missing on the side of `C`
          subst hL
          simp only [size_node, size_nil] at sizes close
          obtain rfl := eq_of_distanceBelow_leaf (Nat.le_of_eq gap) (by omega)
          cases apart with
          | refl =>
              apply affordable_of_level hP hQ hS hT enough tri small
              rw [distanceBelow_self]
              exact Nat.zero_le _
          | step apart => exact affordable_of_after hP hS hT enough apart
        · -- the last root is missing or another one, which makes the rest more expensive
          have h1 := size_lt_of_shift (X := W ++ U₁) (l := l) hL (Z := W ++ V)
            (by simp only [size_append, size_node] at sizes close ⊢; omega)
            (node nil s S) (node nil t T)
          simp only [append_node, append_nil, size_append, size_node] at h1 le close close'
          omega

/-- The landing on the way to `C` stands within the landing on the way from `A`. -/
theorem affordable_of_within_first {Y : Grove α} (hY : Y ≠ nil) (eq : U' = U ++ Y)
    (within : Initial (node Y s S) Q) (gap : distanceBelow W W U' V ≤ 1) :
    Affordable W A C total := by
  subst eq
  have leP := hP.size_le
  have leQ := hQ.size_le
  have leT := hT.size_le
  have leS := within.size_le
  by_cases same : distanceBelow W W (U ++ Y) V = 0
  · obtain rfl := (eq_of_distanceBelow_eq_zero W W (U ++ Y) V same).1
    have h := affordable_of_within det tri W U hY s S t T (node nil p P) q Q
      (total + (node U p P).size + (node (U ++ Y) t T).size - A.size - C.size)
      within
      (by simp only [append_node, append_nil, size_append, size_node] at *; omega)
      (by simp only [append_node, append_nil, size_append, size_node] at *; omega)
    apply h.extend hP hT
    simp only [size_append, size_node] at leP leQ leT leS enough ⊢
    omega
  · have h1 := distanceBelow_initial_le W W (within.append_left U) (node V t T)
    have h2 := distanceBelow_match_le W W (U ++ Y) s S V t T
    have h3 := distance_initial_le ((within.append_left U).append_left W) (node (W ++ V) t T)
    have h := affordable_of_slack det tri W U q within.ne_nil (node V t T) (node nil p P)
      (Q.size + 1 + distance (node (W ++ (U ++ Y)) s S) (node (W ++ V) t T)
        - (node Y s S).size)
      (by simp only [append_node, append_nil, size_append, size_node] at *; omega)
      (by simp only [append_node, size_append, size_node] at *; omega)
      (by simp only [append_node, size_append, size_node] at *; omega)
    apply h.extend hP hT
    simp only [append_node, append_nil, size_append, size_node] at leP leQ leT leS enough ⊢
    omega

/-- The landing on the way from `A` stands within the landing on the way to `C`. -/
theorem affordable_of_within_second {Y : Grove α} (hY : Y ≠ nil) (eq : U = U' ++ Y)
    (within : Initial (node Y q Q) S) (gap : distanceBelow W W U' V ≤ 1) :
    Affordable W A C total := by
  subst eq
  have leP := hP.size_le
  have leS := hS.size_le
  have leT := hT.size_le
  have leQ := within.size_le
  by_cases same : distanceBelow W W U' V = 0
  · obtain rfl := (eq_of_distanceBelow_eq_zero W W U' V same).1
    rw [distance_comm (node (W ++ (U' ++ Y)) p P),
      distance_comm (node (W ++ U') s S)] at enough
    have h := affordable_of_within det tri W U' hY q Q p P (node nil t T) s S
      (total + (node (U' ++ Y) p P).size + (node U' t T).size - A.size - C.size)
      within
      (by simp only [append_node, append_nil, size_append, size_node] at *; omega)
      (by simp only [append_node, append_nil, size_append, size_node] at *; omega)
    apply h.swap.extend hP hT
    simp only [append_node, append_nil, size_append, size_node] at *
    omega
  · have close := size_le_distanceBelow' W U' V
    have h1 := distanceBelow_landing_le (W ++ U') (W ++ U')
      (Initial.refl (X := node Y p P)) within
    rw [distanceBelow_self] at h1
    have h := (climb_price W (node Y p P) gap).cost_le det tri
      (by simp only [size_append]; omega) s within.ne_nil (node nil t T)
      (by simp only [append_node, append_nil, size_append, size_node] at *; omega)
    apply (affordable_iff.mpr h).extend hP hT
    simp only [append_node, append_nil, size_append, size_node, append_assoc] at *
    omega

/-- The same stands before the two trees of the landing on the way from `A`. -/
theorem affordable_of_landings (gap : distanceBelow W W U' V ≤ 1) : Affordable W A C total := by
  rcases Nat.lt_trichotomy U.size U'.size with lt | eq | gt
  · rcases hQ.apart_or_within hS lt with apart | ⟨Y, rfl, within⟩
    · rcases Nat.eq_zero_or_pos (distanceBelow W W U' V) with zero | pos
      · obtain rfl := (eq_of_distanceBelow_eq_zero W W U' V zero).1
        exact affordable_of_after hP hS hT enough apart
      · exact affordable_of_after_edit hP hQ hS hT enough tri small det apart (by omega)
    · have hY : Y ≠ nil := by
        rintro rfl
        simp at lt
      exact affordable_of_within_first hP hQ hS hT enough tri small det hY rfl within gap
  · obtain rfl : U = U' := hQ.of_node_before.eq_of_size hS.of_node_before eq
    exact affordable_of_level hP hQ hS hT enough tri small (Nat.le_refl _)
  · rcases hS.apart_or_within hQ gt with apart | ⟨Y, rfl, within⟩
    · exact affordable_of_before hP hQ hT enough apart
    · have hY : Y ≠ nil := by
        rintro rfl
        simp at gt
      exact affordable_of_within_second hP hQ hS hT enough tri small det hY rfl within gap

end Landings

/-- If the triangle inequality holds for forests of `n` nodes together, then the bound on
detours carries over to forests of `n` nodes together. -/
theorem DetourBelow.step {n : Nat} (tri : TriangleUpTo α n) (det : DetourBelow α n) :
    DetourBelow α (n + 1) := by
  intro W A B C lt
  have small : (W ++ A).size + (W ++ B).size + (W ++ C).size ≤ n := Nat.le_of_lt_succ lt
  have small' : (W ++ C).size + (W ++ B).size + (W ++ A).size ≤ n := by omega
  rcases distanceBelow_cases W W A B with h | ⟨U, p, P, U₂, q, Q, hP, hQ, h⟩
  · -- nothing of `B` is reached from `A`
    left
    have h1 := distanceBelow_le W W A C
    have h2 := size_le_distanceBelow' W B C
    omega
  rcases distanceBelow_cases W W B C with h' | ⟨U', s, S, V, t, T, hS, hT, h'⟩
  · -- nothing of `C` is reached from `B`
    left
    have h1 := distanceBelow_le W W A C
    have h2 := size_le_distanceBelow W A B
    omega
  have leP := hP.size_le
  have leQ := hQ.size_le
  have leS := hS.size_le
  have leT := hT.size_le
  by_cases far : 2 ≤ distanceBelow W W U U₂ + distanceBelow W W U' V
  · right
    have h1 := distance_through tri (hQ.append_left W) (hS.append_left W)
      (W ++ node U p P) (W ++ node V t T) (by simp only [size_append] at *; omega)
    have h2 := distance_append_initials_le W W hP hT
    simp only [size_append] at h1
    omega
  · by_cases zero : distanceBelow W W U U₂ = 0
    · obtain rfl := (eq_of_distanceBelow_eq_zero W W U U₂ zero).1
      rw [append_node, append_node] at h h'
      exact affordable_of_landings hP hQ hS hT (by omega) tri small det (by omega)
    · obtain rfl := (eq_of_distanceBelow_eq_zero W W U' V (by omega)).1
      rw [append_node, append_node, distance_comm] at h h'
      rw [distanceBelow_comm W W U U₂] at h far zero
      exact (affordable_of_landings hT hS hQ hP (by omega) tri small' det (by omega)).swap

end Grove
end Likeness
