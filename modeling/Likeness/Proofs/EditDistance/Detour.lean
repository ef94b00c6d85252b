import Likeness.Proofs.EditDistance.Recurrence

/-!
# Detours below a common beginning

Comparing two forests by way of a third one is never cheaper for the distance itself.  For
the forests below two roots this fails: a direct comparison may cost more than a detour.
What holds is weaker and still enough.  When the same stands before all three roots, the
detour is at least as expensive as the direct comparison, or at least by two more expensive
than comparing everything up to the roots, which leaves room for giving up both roots.

Two kinds of detours are followed here by taking a forest apart at its right end, until its
last root is matched with the root in the middle.

**Main statements.**
* `Grove.affordable_of_matched`: a detour over one tree comes down to its matches over
  different beginnings; `Grove.affordable_of_slack` and `Grove.affordable_of_within` are the
  cases in which these are affordable too.
* `Grove.Climb.cost_le`: a detour up to a root and over to a forest before which something
  else stands.
-/

namespace Likeness
namespace Grove

variable {α : Type} [DecidableEq α]

/-- The triangle inequality for three forests of at most `n` nodes together. -/
def TriangleUpTo (α : Type) [DecidableEq α] (n : Nat) : Prop :=
  ∀ X Y Z : Grove α, X.size + Y.size + Z.size ≤ n →
    distance X Z ≤ distance X Y + distance Y Z

/-- With `total` to spend, the forests `A` and `C` below two roots can be compared, or both
roots can be given up. -/
def Affordable (W A C : Grove α) (total : Nat) : Prop :=
  distanceBelow W W A C ≤ total ∨ distance (W ++ A) (W ++ C) + 2 ≤ total

/-- Detours are affordable below `n` nodes together. -/
def DetourBelow (α : Type) [DecidableEq α] (n : Nat) : Prop :=
  ∀ W A B C : Grove α, (W ++ A).size + (W ++ B).size + (W ++ C).size < n →
    Affordable W A C (distanceBelow W W A B + distanceBelow W W B C)

namespace Affordable

variable {W A C : Grove α} {part total : Nat}

theorem swap (h : Affordable W A C total) : Affordable W C A total := by
  rcases h with h | h
  · left; rwa [distanceBelow_comm]
  · right; rwa [distance_comm]

theorem mono (h : Affordable W A C part) (le : part ≤ total) : Affordable W A C total :=
  h.imp (fun h => Nat.le_trans h le) (fun h => Nat.le_trans h le)

/-- What comes after two initial parts is removed. -/
theorem extend {A' C' : Grove α} (h : Affordable W A' C' part) (hA : Initial A' A)
    (hC : Initial C' C)
    (le : part + A.size + C.size ≤ total + A'.size + C'.size) : Affordable W A C total := by
  rcases h with h | h
  · left
    have h1 := distanceBelow_initials_le W W hA hC
    omega
  · right
    have h1 := distance_append_initials_le W W hA hC
    omega

/-- A landing on two trees before which the same stands. -/
theorem of_landing {U P V T : Grove α} {p t : α} (hP : Initial (node U p P) A)
    (hT : Initial (node V t T) C)
    (le : distanceBelow W W U V + distance (node (W ++ U) p P) (node (W ++ V) t T)
      + A.size + C.size ≤ total + (node U p P).size + (node V t T).size) :
    Affordable W A C total := by
  left
  have h := distanceBelow_landing_le W W hP hT
  simp only [append_node] at h
  omega

end Affordable

/-- What is asked of the costs of a comparison of the forest `A`, before which `X` stands, with
the initial parts of a forest before which `Z` stands. -/
structure Climb (X Z A : Grove α) (cost : Grove α → Nat) : Prop where
  nil_le : cost nil ≤ A.size + 1
  step_le : ∀ C₁ c C₂, cost (node C₁ c C₂) ≤ cost (C₁ ++ C₂) + 1
  le : ∀ C, cost C ≤ distance (X ++ A) (Z ++ C) + 2
  same_le : ∀ C₁ c C₂, X = Z ++ C₁ → cost (node C₁ c C₂) ≤ distanceBelow X X A C₂ + 2

section Descent

/-- A match over different beginnings is paid for twice. -/
theorem distance_append_lt_match (Y : Grove α) {A₁ : Grove α} (hA : A₁ ≠ nil)
    (A₂ : Grove α) {Q : Grove α} (hQ : Q ≠ nil) :
    distance (Y ++ A₁ ++ A₂) (Y ++ Q)
      < distance (Y ++ A₁) Y + distanceBelow (Y ++ A₁) Y A₂ Q := by
  have posA := size_pos hA
  have apart := size_le_distance (Y ++ A₁) Y
  rw [size_append] at apart
  rcases distance_le_distanceBelow (Y ++ A₁) Y A₂ Q with removed | kept
  · have h1 := distance_append_lt Y Y hA hQ
    have h2 := distance_initial_le (Initial.append_right (Y ++ A₁) A₂) (Y ++ Q)
    rw [distance_self] at h1
    simp only [size_append] at h2
    omega
  · omega

variable {n : Nat} (det : DetourBelow α n)
include det

/-- Two trees stand on the same forest, so the detour below their roots is a shorter one. -/
theorem affordable_of_same {W U A Q C : Grove α} (a : α) {rest : Nat}
    (small : (W ++ (U ++ A)).size + (W ++ (U ++ Q)).size + (W ++ C).size < n)
    (hrest : distanceBelow W W (U ++ Q) C ≤ rest) :
    Affordable W (node U a A) C (distanceBelow (W ++ U) (W ++ U) A Q + 1 + rest) := by
  have h := distanceBelow_append_self_le W U A Q
  apply (det W (U ++ A) (U ++ Q) C small).extend (Initial.step Initial.refl) Initial.refl
  rw [size_node_eq]
  omega

variable (tri : TriangleUpTo α n)
include tri

/-- A detour leads over the tree with root `q`, and `rest` is enough for the way from the
forest below `q`.  Then only matches over different beginnings are in question. -/
theorem affordable_of_matched {W U Q C : Grove α} (q : α) (rest : Nat)
    (hrest : distanceBelow W W (U ++ Q) C ≤ rest)
    (hrest' : distance (W ++ (U ++ Q)) (W ++ C) ≤ rest) (A : Grove α)
    (small : (W ++ (U ++ A)).size + (node (W ++ U) q Q).size + (W ++ C).size ≤ n)
    (matched : ∀ A₁ a A₂, A₁ ≠ nil → Initial (node A₁ a A₂) A →
      Affordable W (U ++ node A₁ a A₂) C
        (distance (W ++ U ++ A₁) (W ++ U) + distanceBelow (W ++ U ++ A₁) (W ++ U) A₂ Q
          + 1 + rest)) :
    Affordable W (U ++ A) C
      (distance (W ++ (U ++ A)) (node (W ++ U) q Q) + 1 + rest) := by
  match A with
  | nil =>
      right
      have h1 := tri (W ++ U) (W ++ (U ++ Q)) (W ++ C)
        (by simp only [size_append, size_node, append_nil] at small ⊢; omega)
      have h2 := distance_initial_le' (W ++ U) (Initial.append_right (W ++ U) Q)
      have h3 := size_le_distance' (W ++ U) (node (W ++ U) q Q)
      rw [distance_self, append_assoc] at h2
      simp only [size_append, size_node, append_nil] at h2 h3 ⊢
      omega
  | node A₁ a A₂ =>
      rcases distance_cases (W ++ (U ++ A₁)) a A₂ (W ++ U) q Q with h | h | h
      · -- the root `a` is removed
        have ih := affordable_of_matched q rest hrest hrest' (A₁ ++ A₂)
          (by simp only [size_append, size_node] at small ⊢; omega)
          (fun B₁ b B₂ hB part => matched B₁ b B₂ hB part.step)
        apply ih.extend ((Initial.step Initial.refl).append_left U) Initial.refl
        simp only [append_node, append_assoc, size_append, size_node] at h ⊢
        omega
      · -- the root `q` is removed
        right
        have h1 := tri (node (W ++ (U ++ A₁)) a A₂) (W ++ (U ++ Q)) (W ++ C)
          (by simp only [size_append, size_node] at small ⊢; omega)
        rw [append_assoc] at h
        rw [append_node, append_node]
        omega
      · by_cases hA : A₁ = nil
        · subst hA
          rw [append_nil, distance_self] at h
          apply (affordable_of_same det a
            (by simp only [size_append, size_node] at small ⊢; omega) hrest).mono
          simp only [append_node, append_nil]
          omega
        · apply (matched A₁ a A₂ hA Initial.refl).mono
          rw [append_assoc, append_node, append_node]
          omega
termination_by A.size
decreasing_by
  simp only [size_append, size_node]
  omega

/-- A detour leads over the tree with root `q`, and one more than the way from the forest
below `q` can be spent. -/
theorem affordable_of_slack (W U : Grove α) (q : α) {Q : Grove α} (hQ : Q ≠ nil)
    (C A : Grove α) (rest : Nat)
    (small : (W ++ (U ++ A)).size + (node (W ++ U) q Q).size + (W ++ C).size ≤ n)
    (hrest : distanceBelow W W (U ++ Q) C ≤ rest)
    (hrest' : distance (W ++ (U ++ Q)) (W ++ C) + 1 ≤ rest) :
    Affordable W (U ++ A) C
      (distance (W ++ (U ++ A)) (node (W ++ U) q Q) + 1 + rest) := by
  apply affordable_of_matched det tri q rest hrest (by omega) A small
  intro A₁ a A₂ hA part
  right
  have le := part.size_le
  have h1 := distance_append_lt_match (W ++ U) hA A₂ hQ
  have h2 := tri (W ++ U ++ A₁ ++ A₂) (W ++ U ++ Q) (W ++ C)
    (by simp only [size_append, size_node] at small le ⊢; omega)
  have h3 := distance_delete_le (W ++ U ++ A₁) a A₂ (W ++ C)
  rw [append_assoc W U Q] at h1 h2
  rw [append_node, append_node, ← append_assoc]
  omega

/-- A detour leads over the tree with root `q` and, within it, over the tree with root `r`,
before which the same stands as before the tree with root `t`. -/
theorem affordable_of_within (W U : Grove α) {Y : Grove α} (hY : Y ≠ nil) (r : α)
    (R : Grove α) (t : α) (T A : Grove α) (q : α) (Q : Grove α) (total : Nat)
    (within : Initial (node Y r R) Q)
    (small : (W ++ (U ++ A)).size + (node (W ++ U) q Q).size
      + (node (W ++ (U ++ Y)) t T).size ≤ n)
    (enough : distance (W ++ (U ++ A)) (node (W ++ U) q Q) + Q.size + 1
      + distance (node (W ++ (U ++ Y)) r R) (node (W ++ (U ++ Y)) t T)
        ≤ total + (node Y r R).size) :
    Affordable W (U ++ A) (node (U ++ Y) t T) total := by
  have leQ := within.size_le
  have onQ : Initial (node (U ++ Y) r R) (U ++ Q) := within.append_left U
  have hrest := distanceBelow_landing_le W W onQ (Initial.refl (X := node (U ++ Y) t T))
  have hrest' := distance_initial_le (onQ.append_left W) (node (W ++ (U ++ Y)) t T)
  have begin' := distanceBelow_initial_le' W W U
    ((Initial.append_right U Y).trans (Initial.before (U ++ Y) t T))
  have sizes := size_le_distance' (node (W ++ (U ++ Y)) r R) (node (W ++ (U ++ Y)) t T)
  rw [distanceBelow_self] at hrest begin'
  simp only [append_node, size_append, size_node] at hrest hrest' begin' sizes leQ enough
  apply (affordable_of_matched det tri q
    (Q.size + distance (node (W ++ (U ++ Y)) r R) (node (W ++ (U ++ Y)) t T)
      - (node Y r R).size)
    (by simp only [size_node]; omega) (by simp only [append_node, size_node]; omega) A small
    ?matched).mono (by simp only [size_node]; omega)
  intro A₁ a A₂ hA part
  have leA := part.size_le
  have apart := size_le_distance (W ++ U ++ A₁) (W ++ U)
  simp only [append_node, append_assoc, size_append, size_node] at leA apart small ⊢
  rcases distanceBelow_cases_of_ne (append_ne_self (W ++ U) hA) A₂ Q with
    removed | twice | ⟨one, p, P, s, S, hP, hS, landing⟩
  · -- nothing below the two roots is kept
    left
    have h := distanceBelow_initial_le W W
      ((Initial.append_right U A₁).trans (Initial.before (U ++ A₁) a A₂))
      (node (U ++ Y) t T)
    simp only [append_assoc, size_append, size_node] at h removed
    omega
  · -- the match is paid for twice
    right
    have h1 := tri (W ++ (U ++ (A₁ ++ A₂))) (W ++ (U ++ Q)) (node (W ++ (U ++ Y)) t T)
      (by simp only [size_append, size_node]; omega)
    have h2 := distance_delete_le (W ++ (U ++ A₁)) a A₂ (node (W ++ (U ++ Y)) t T)
    simp only [append_node, append_assoc] at twice h2 ⊢
    omega
  have onA : Initial (node (U ++ A₁) p P) (node (U ++ A₁) a A₂) :=
    (hP.append_left A₁).step.append_left U
  have leP := hP.size_le
  have leS := hS.size_le
  simp only [append_assoc, size_node, size_nil] at leP leS landing
  rcases hS.apart_or_within within (by simpa using size_pos hY) with hSY | ⟨Y', hY', hSR⟩
  · -- the tree with root `s` is part of what stands before the tree with root `t`
    left
    have onC : Initial (node U s S) (node (U ++ Y) t T) :=
      (hSY.append_left U).trans (Initial.before (U ++ Y) t T)
    have h1 := distanceBelow_landing_le W W onA onC
    have h2 := distanceBelow_initial_le W W (Initial.append_right U A₁) U
    rw [distanceBelow_self] at h2
    simp only [append_node, size_append, size_node] at h1 h2
    omega
  · -- the tree with root `r` stands within the tree with root `s`
    rw [nil_append] at hY'
    subst hY'
    have leR := hSR.size_le
    have less : (A₁ ++ node nil p P).size < A.size := by
      simp only [size_append, size_node, size_nil]
      omega
    have ih := affordable_of_within W U hY r R t T (A₁ ++ node nil p P) s S
      (distance (node (W ++ (U ++ A₁)) p P) (node (W ++ U) s S) + S.size + 1
        + distance (node (W ++ (U ++ Y)) r R) (node (W ++ (U ++ Y)) t T)
        - (node Y r R).size)
      hSR (by simp only [size_append, size_node, size_nil]; omega)
      (by simp only [append_node, append_nil]; omega)
    apply ih.extend onA Initial.refl
    simp only [append_node, append_nil, size_append, size_node] at leR ⊢
    omega
termination_by A.size
decreasing_by exact less

/-- A detour leads from the forest below `q` up to the root `q` and over to a forest before
which something else stands. -/
theorem Climb.cost_le {X Z A : Grove α} {cost : Grove α → Nat} (climb : Climb X Z A cost)
    (near : Z.size ≤ X.size + 1) (q : α) {Q : Grove α} (hQ : Q ≠ nil) (C : Grove α)
    (small : (X ++ A).size + (node X q Q).size + (Z ++ C).size ≤ n) :
    cost C ≤ distanceBelow X X A Q + 2 + distance (node X q Q) (Z ++ C) := by
  have below := distance_append_self_le X A Q
  have detour : ∀ C', (Z ++ C').size ≤ (Z ++ C).size →
      distance (X ++ A) (Z ++ C') ≤ distanceBelow X X A Q + distance (X ++ Q) (Z ++ C') := by
    intro C' smaller
    have h := tri (X ++ A) (X ++ Q) (Z ++ C')
      (by simp only [size_append, size_node] at small smaller ⊢; omega)
    omega
  match C with
  | nil =>
      have h1 := climb.nil_le
      have h2 := size_le_distance (node X q Q) (Z ++ nil)
      have h3 := size_le_distance (X ++ A) (X ++ Q)
      simp only [size_append, size_node, append_nil] at h2 h3 ⊢
      omega
  | node C₁ c C₂ =>
      have direct := detour (node C₁ c C₂) (Nat.le_refl _)
      have shorter := detour (C₁ ++ C₂) (by simp only [size_append, size_node]; omega)
      have removed := distance_insert_le (X ++ A) (Z ++ C₁) c C₂
      have bound := climb.le (node C₁ c C₂)
      have kept := distance_append_node_le X (Z ++ C₁) hQ c C₂
      simp only [append_node] at direct bound ⊢
      rw [← append_assoc] at shorter
      rcases distance_cases X q Q (Z ++ C₁) c C₂ with h | h | h
      · omega
      · have ih := climb.cost_le near q hQ (C₁ ++ C₂)
          (by simp only [size_append, size_node] at small ⊢; omega)
        have step := climb.step_le C₁ c C₂
        rw [← append_assoc] at ih
        omega
      · by_cases eq : X = Z ++ C₁
        · -- both trees stand on the same forest, so the detour below them is a shorter one
          have same := climb.same_le C₁ c C₂ eq
          rw [← eq, distance_self] at h
          rw [← eq] at removed bound ⊢
          rcases det X A Q C₂ (by
              have hs := congrArg size eq
              simp only [size_append, size_node] at small hs ⊢
              omega) with ih | ih
          · omega
          · omega
        · have pos := distance_pos eq
          rcases distance_le_distanceBelow X (Z ++ C₁) Q C₂ with h' | h'
          · omega
          · omega
termination_by C.size
decreasing_by
  simp only [size_append, size_node]
  omega

end Descent

section Shift

/-- A forest whose last root has something below it, and a forest that is smaller by one:
however both go on, the distance is not the mere difference of their sizes. -/
theorem size_lt_of_shift {X : Grove α} {l : α} {L : Grove α} (hL : L ≠ nil) {Z : Grove α}
    (shorter : Z.size + 1 = (node X l L).size) (J K : Grove α) :
    (Z ++ K).size < (node X l L ++ J).size + distance (node X l L ++ J) (Z ++ K) := by
  have posL := size_pos hL
  match J, K with
  | J, nil =>
      simp only [append_nil, size_append, size_node] at shorter ⊢
      omega
  | nil, node K₁ k K₂ =>
      simp only [append_nil, append_node]
      rcases distance_cases X l L (Z ++ K₁) k K₂ with h | h | h
      · have h1 := size_le_distance' (X ++ L) (node (Z ++ K₁) k K₂)
        simp only [size_append, size_node] at h1 ⊢
        omega
      · have ih := size_lt_of_shift hL shorter nil (K₁ ++ K₂)
        simp only [append_nil, ← append_assoc, size_append, size_node] at ih ⊢
        omega
      · have h1 := size_le_distance' X (Z ++ K₁)
        have h2 := size_le_distance' (X ++ L) (Z ++ K₁ ++ K₂)
        simp only [size_append, size_node] at shorter h1 h2 ⊢
        rcases distance_le_distanceBelow X (Z ++ K₁) L K₂ with h' | h'
        · omega
        · omega
  | node J₁ j J₂, node K₁ k K₂ =>
      simp only [append_node]
      rcases distance_cases (node X l L ++ J₁) j J₂ (Z ++ K₁) k K₂ with h | h | h
      · have h1 := size_le_distance' (node X l L ++ J₁ ++ J₂) (node (Z ++ K₁) k K₂)
        simp only [size_append, size_node] at h1 ⊢
        omega
      · have ih := size_lt_of_shift hL shorter (node J₁ j J₂) (K₁ ++ K₂)
        simp only [append_node, ← append_assoc, size_append, size_node] at ih ⊢
        omega
      · have ih := size_lt_of_shift hL shorter J₁ K₁
        have ih' := size_lt_of_shift hL shorter (J₁ ++ J₂) (K₁ ++ K₂)
        simp only [← append_assoc, size_append, size_node] at ih ih' ⊢
        rcases distance_le_distanceBelow (node X l L ++ J₁) (Z ++ K₁) J₂ K₂ with h' | h'
        · omega
        · omega
termination_by J.size + K.size
decreasing_by
  all_goals simp only [size_append, size_node, size_nil]
  all_goals omega

end Shift

end Grove
end Likeness
