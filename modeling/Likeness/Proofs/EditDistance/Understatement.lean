import Likeness.Proofs.EditDistance.Filling
import Likeness.Proofs.EditDistance.Mapping
import Likeness.Proofs.EditDistance.Surplus

/-!
# How far the distance understates the least cost

The distance adds, for each match below two roots, the distance of everything up to that
match.  What stands before the two roots is paid for once more, but it can also be edited in
another way the second time, which may bring the total below the least cost.  The distance
can only gain in this way when what stands before the two roots differs by one edit.

**Main statements.**
* `Grove.leastCost_le_three_halves`: the least cost is at most one and a half times the
  distance.
* `Grove.leastCost_le_of_distance_le_four`: up to a distance of four, nothing is understated
  for two trees.
* `leastCost_le_editDistance_iff`: both bounds, for the numbers that the program computes and
  the least cost of an edit mapping; above four, every number understates the least cost for
  some trees.
* `editDistance_lt_leastCost`: two trees of distance five whose least cost is six.
-/

namespace Likeness
namespace Grove

variable {α : Type} [DecidableEq α]

/-- The distance of two forests of at most `n` nodes together is at least two thirds of the
least cost. -/
def ThreeHalvesUpTo (α : Type) [DecidableEq α] (n : Nat) : Prop :=
  ∀ X Y : Grove α, X.size + Y.size ≤ n → 2 * leastCost X Y ≤ 3 * distance X Y

section ThreeHalves

variable {n : Nat} (bound : ThreeHalvesUpTo α n)
include bound

/-- What stands before two trees differs by one edit. -/
theorem leastCost_le_of_edit_before {W V : Grove α} (one : distance W V = 1) (a : α)
    (A : Grove α) (b : α) (B : Grove α)
    (small : (node W a A).size + (node V b B).size ≤ n + 1) :
    2 * leastCost (node nil a A) (node nil b B)
      ≤ 3 * distance (node W a A) (node V b B) + 1 := by
  have before := bound W V (by simp only [size_node] at small; omega)
  have front : ∀ A B : Grove α, leastCost A B ≤ leastCost (W ++ A) (V ++ B) + 1 := by
    intro A B
    have h := leastCost_le_append W V A B
    omega
  rcases distance_cases W a A V b B with h | h | h
  · have h1 := leastCost_delete_le nil a A (node nil b B)
    have h2 := front A (node nil b B)
    have h3 := bound (W ++ A) (node V b B)
      (by simp only [size_append, size_node] at small ⊢; omega)
    simp only [nil_append, append_node, append_nil] at h1 h2
    omega
  · have h1 := leastCost_insert_le (node nil a A) nil b B
    have h2 := front (node nil a A) B
    have h3 := bound (node W a A) (V ++ B)
      (by simp only [size_append, size_node] at small ⊢; omega)
    simp only [nil_append, append_node, append_nil] at h1 h2
    omega
  · have h1 := leastCost_match_le nil a A nil b B
    rw [leastCost_nil_left, size_nil] at h1
    rcases distance_le_distanceBelow W V A B with removed | kept
    · have h2 := leastCost_le A B
      omega
    · have h2 := front A B
      have h3 := bound (W ++ A) (V ++ B)
        (by simp only [size_append, size_node] at small ⊢; omega)
      omega

theorem ThreeHalvesUpTo.step : ThreeHalvesUpTo α (n + 1) := by
  intro X Y small
  match X, Y with
  | nil, Y =>
      simp only [leastCost_nil_left, distance_nil_left]
      omega
  | X, nil =>
      simp only [leastCost_nil_right, distance_nil_right]
      omega
  | node W p U, node V q S =>
      have before := bound W V (by simp only [size_node] at small; omega)
      have without := bound (W ++ U) (V ++ S)
        (by simp only [size_append, size_node] at small ⊢; omega)
      have deleted := leastCost_delete_le W p U (node V q S)
      have inserted := leastCost_insert_le (W ++ U) V q S
      have matched := leastCost_match_le W p U V q S
      rcases distance_cases W p U V q S with h | h | h
      · have h1 := bound (W ++ U) (node V q S)
          (by simp only [size_append, size_node] at small ⊢; omega)
        omega
      · have h1 := bound (node W p U) (V ++ S)
          (by simp only [size_append, size_node] at small ⊢; omega)
        have h2 := leastCost_insert_le (node W p U) V q S
        omega
      · have relabelled := relabel_le_one p q
        rcases distance_le_distanceBelow W V U S with removed | kept
        · have h1 := leastCost_le U S
          omega
        by_cases same : W = V
        · -- with the same in front, the forests below are compared on their own
          subst same
          have h1 := leastCost_le_append_self W U S
          rw [leastCost_self] at matched
          omega
        · have pos := distance_pos same
          rcases distanceBelow_cases_of_ne same U S with
            removed | far | ⟨one, a, A, b, B, hA, hB, h'⟩
          · have h1 := leastCost_le U S
            omega
          · omega
          · -- the landing comes first below the two roots
            have leA := hA.size_le
            have leB := hB.size_le
            have h1 := leastCost_le_of_edit_before bound one a A b B
              (by simp only [size_node, size_nil] at small leA leB ⊢; omega)
            have h2 := leastCost_initials_le hA hB
            omega

end ThreeHalves

theorem threeHalvesUpTo (n : Nat) : ThreeHalvesUpTo α n := by
  induction n with
  | zero =>
      intro X Y small
      have hX : X = nil := eq_nil_of_size (by omega)
      have hY : Y = nil := eq_nil_of_size (by omega)
      rw [hX, hY, leastCost_self]
      exact Nat.zero_le _
  | succ n ih => exact ih.step

/-- The least cost is at most one and a half times the distance. -/
theorem leastCost_le_three_halves (X Y : Grove α) :
    2 * leastCost X Y ≤ 3 * distance X Y :=
  threeHalvesUpTo _ X Y (Nat.le_refl _)

/-- What stands in front on both sides can be left out. -/
theorem leastCost_le_three_halves_append (W A B : Grove α) :
    2 * leastCost A B ≤ 3 * distance (W ++ A) (W ++ B) := by
  have h1 := leastCost_le_append_self W A B
  have h2 := leastCost_le_three_halves (W ++ A) (W ++ B)
  omega

/-- Two near trees, before which the same stands and, before the first one, one node more.
With that node or without it, the least cost is not understated. -/
theorem leastCost_le_of_one_more {W Z : Grove α} (one : distance (W ++ Z) W = 1) (a : α)
    (A : Grove α) (b : α) (B : Grove α)
    (near : distance (node (W ++ Z) a A) (node W b B) ≤ 2) :
    leastCost (node Z a A) (node nil b B) ≤ distance (node (W ++ Z) a A) (node W b B)
      ∨ leastCost (node nil a A) (node nil b B)
          ≤ distance (node (W ++ Z) a A) (node W b B) := by
  rcases distance_cases (W ++ Z) a A W b B with h | h | h
  · left
    have h1 := leastCost_delete_le Z a A (node nil b B)
    have h2 := leastCost_le_three_halves_append W (Z ++ A) (node nil b B)
    rw [← append_assoc, append_node, append_nil] at h2
    omega
  · left
    have h1 := leastCost_insert_le (node Z a A) nil b B
    have h2 := leastCost_le_three_halves_append W (node Z a A) B
    rw [append_node] at h2
    rw [nil_append] at h1
    omega
  · right
    have h1 := leastCost_match_le nil a A nil b B
    have sizes := size_le_distance (W ++ Z) W
    rw [leastCost_self] at h1
    rw [size_append] at sizes
    rcases distance_le_distanceBelow (W ++ Z) W A B with removed | kept
    · have h2 := leastCost_le A B
      omega
    · have h2 := leastCost_le_three_halves_append W (Z ++ A) B
      have h3 := leastCost_le_append Z nil A B
      rw [← append_assoc] at h2
      rw [nil_append, leastCost_nil_right] at h3
      omega

/-- Two last trees before which the same stands, with fewer than `n` nodes below their roots:
up to a distance of four, the least cost is not understated. -/
def FaithfulBelow (α : Type) [DecidableEq α] (n : Nat) : Prop :=
  ∀ (W : Grove α) (p : α) (U : Grove α) (q : α) (S : Grove α), U.size + S.size < n →
    distance (node W p U) (node W q S) ≤ 4 →
      leastCost (node nil p U) (node nil q S) ≤ distance (node W p U) (node W q S)

section UpToFour

variable {n : Nat} (faithful : FaithfulBelow α n)
include faithful

/-- The forests below two roots before which the same stands. -/
theorem leastCost_le_distanceBelow {W U S : Grove α} (small : U.size + S.size ≤ n)
    (near : distanceBelow W W U S ≤ 4) : leastCost U S ≤ distanceBelow W W U S := by
  rcases distanceBelow_cases W W U S with h | ⟨P, p, P', Q, q, Q', hP, hQ, h⟩
  · rw [h]
    exact leastCost_le U S
  have leP := hP.size_le
  have leQ := hQ.size_le
  have h1 := leastCost_initials_le hP hQ
  by_cases same : distanceBelow W W P Q = 0
  · obtain rfl := (eq_of_distanceBelow_eq_zero W W P Q same).1
    have h2 := leastCost_append_le P P (node nil p P') (node nil q Q')
    simp only [leastCost_self, append_node, append_nil, size_node] at h h1 h2 leP leQ
    have h3 := faithful (W ++ P) p P' q Q' (by omega) (by omega)
    omega
  · -- what is paid twice makes up for what the match may understate
    have h2 := leastCost_le_three_halves_append W (node P p P') (node Q q Q')
    omega

/-- A tree is compared with a forest of which the same stands in front.  If the whole is
understated, what is below the root of the tree is near enough. -/
theorem leastCost_le_or_below (W Z : Grove α) (q : α) (S : Grove α)
    (small : Z.size + S.size ≤ n) (near : distance (W ++ Z) (node W q S) ≤ 3) :
    leastCost Z (node nil q S) ≤ distance (W ++ Z) (node W q S)
      ∨ leastCost Z S ≤ distance (W ++ Z) (node W q S) := by
  match Z with
  | nil =>
      left
      have h := size_le_distance' W (node W q S)
      simp only [append_nil, leastCost_nil_left, size_node, size_nil] at h ⊢
      omega
  | node Z₁ r R =>
      simp only [append_node] at near ⊢
      rcases distance_cases (W ++ Z₁) r R W q S with h | h | h
      · -- the root `r` is removed
        have ih := leastCost_le_or_below W (Z₁ ++ R) q S
          (by simp only [size_append, size_node] at small ⊢; omega)
          (by rw [← append_assoc]; omega)
        rw [← append_assoc] at ih
        have h1 := leastCost_delete_le Z₁ r R (node nil q S)
        have h2 := leastCost_delete_le Z₁ r R S
        omega
      · -- the root `q` is removed
        right
        have h1 := leastCost_le_three_halves_append W (node Z₁ r R) S
        rw [append_node] at h1
        omega
      · have matched := leastCost_match_le Z₁ r R nil q S
        have sizes := size_le_distance (W ++ Z₁) W
        rw [leastCost_nil_right] at matched
        rw [size_append] at sizes
        by_cases hZ : Z₁ = nil
        · left
          subst hZ
          simp only [append_nil, distance_self] at h near ⊢
          rw [size_nil] at matched
          have h1 := leastCost_le_distanceBelow faithful (W := W) (U := R) (S := S)
            (by simp only [size_node] at small; omega) (by omega)
          omega
        · have deleted := leastCost_delete_le Z₁ r R S
          rcases distanceBelow_cases_of_ne (append_ne_self W hZ) R S with
            removed | far | ⟨one, a, A, b, B, hA, hB, landing⟩
          · left
            have h1 := leastCost_le R S
            omega
          · right
            have h1 := leastCost_le_three_halves_append W (Z₁ ++ R) S
            rw [← append_assoc] at h1
            omega
          · have leA := hA.size_le
            have leB := hB.size_le
            simp only [size_node, size_nil] at leA leB landing
            rcases leastCost_le_of_one_more one a A b B (by omega) with h1 | h1
            · right
              have h2 := leastCost_initials_le (hA.append_left Z₁) hB
              simp only [append_node, append_nil, size_append, size_node, size_nil] at h2
              omega
            · left
              have h2 := leastCost_initials_le hA hB
              simp only [size_node, size_nil] at h2
              omega
termination_by Z.size
decreasing_by
  simp only [size_append, size_node]
  omega

theorem FaithfulBelow.step : FaithfulBelow α (n + 1) := by
  intro W p U q S small near
  have matched := leastCost_match_le nil p U nil q S
  have relabelled := relabel_le_one p q
  rw [leastCost_self] at matched
  rcases distance_cases W p U W q S with h | h | h
  · have h1 := leastCost_delete_le nil p U (node nil q S)
    rw [nil_append] at h1
    rcases leastCost_le_or_below faithful W U q S (by omega) (by omega) with h2 | h2
    · omega
    · omega
  · have h1 := leastCost_insert_le (node nil p U) nil q S
    rw [nil_append] at h1
    rw [distance_comm (node W p U) (W ++ S)] at h
    rcases leastCost_le_or_below faithful W S p U (by omega) (by omega) with h2 | h2
    · rw [leastCost_comm] at h2
      omega
    · rw [leastCost_comm] at h2
      omega
  · rw [distance_self] at h
    have h1 := leastCost_le_distanceBelow faithful (W := W) (U := U) (S := S) (by omega)
      (by omega)
    omega

end UpToFour

theorem faithfulBelow (n : Nat) : FaithfulBelow α n := by
  induction n with
  | zero =>
      intro W p U q S small
      exact absurd small (Nat.not_lt_zero _)
  | succ n ih => exact ih.step

/-- Up to a distance of four, nothing is understated for two trees. -/
theorem leastCost_le_of_distance_le_four (p : α) (U : Grove α) (q : α) (S : Grove α)
    (near : distance (node nil p U) (node nil q S) ≤ 4) :
    leastCost (node nil p U) (node nil q S) ≤ distance (node nil p U) (node nil q S) :=
  faithfulBelow _ nil p U q S (Nat.lt_succ_self _) near

end Grove

section Trees

/-- The deeper one of two trees that are nearer to each other than any edit mapping allows. -/
def deepTree : Tree :=
  .branch "a" [.branch "a" [],
    .branch "b" [.branch "a" [.branch "a" [.branch "b" [], .branch "a" []]]]]

/-- The flatter one of the two trees. -/
def flatTree : Tree :=
  .branch "b" [.branch "b" [.branch "a" [], .branch "b" [],
    .branch "a" [.branch "a" []]]]

theorem editDistance_deepTree : editDistance deepTree flatTree = 5 := by decide +kernel

/-- A tree and some leaves on its right, below one root. -/
def Tree.widened (tree : Tree) (surplus : Nat) : Tree :=
  .branch "c" (tree :: List.replicate surplus (.branch "c" []))

section Widening

open Grove

theorem outline_widened (tree : Tree) (surplus : Nat) :
    (tree.widened surplus).outline
      = node nil (Label.of "c" "") (tree.outline ++ leaves (Label.of "c" "") surplus) := by
  have side : ∀ n, Forest.outline (List.replicate n (Tree.branch "c" []))
      = leaves (Label.of "c" "") n := by
    intro n
    induction n with
    | zero => exact Forest.outline_nil
    | succ n ih =>
        rw [List.replicate_succ, Forest.outline_cons, ih, Tree.outline_branch,
          Forest.outline_nil, leaf_append_leaves]
  rw [Tree.widened, Tree.outline_branch, Forest.outline_cons, side]

/-- The distance of the two trees below one root, the deeper one with surplus leaves. -/
def widenedDistance (surplus : Nat) : Nat :=
  editDistance (deepTree.widened surplus) (flatTree.widened 0)

theorem widenedDistance_eq (surplus : Nat) :
    widenedDistance surplus
      = distance
          (node nil (Label.of "c" "") (deepTree.outline ++ leaves (Label.of "c" "") surplus))
          (node nil (Label.of "c" "") flatTree.outline) := by
  rw [widenedDistance, editDistance_eq, outline_widened, outline_widened, leaves, append_nil]

theorem widenedDistance_le (surplus : Nat) : widenedDistance surplus ≤ surplus + 5 := by
  have base := editDistance_deepTree
  rw [editDistance_eq] at base
  have h := distance_surplus_le (Label.of "c" "") (Label.of "c" "") surplus deepTree.label
    (Forest.outline deepTree.children) flatTree.label (Forest.outline flatTree.children)
  rw [← deepTree.outline_eq, ← flatTree.outline_eq, base] at h
  rw [widenedDistance_eq, Nat.add_comm]
  exact h

theorem widenedDistance_succ_le (surplus : Nat) :
    widenedDistance (surplus + 1) ≤ widenedDistance surplus + 1 := by
  rw [widenedDistance_eq, widenedDistance_eq]
  exact distance_surplus_succ_le _ _ surplus _ _

theorem le_widenedDistance (surplus : Nat) : surplus ≤ widenedDistance surplus := by
  have sizes : flatTree.outline.size ≤ deepTree.outline.size := by decide +kernel
  have h := size_le_distance
    (node nil (Label.of "c" "") (deepTree.outline ++ leaves (Label.of "c" "") surplus))
    (node nil (Label.of "c" "") flatTree.outline)
  rw [← widenedDistance_eq] at h
  simp only [size_node, size_append, size_leaves, size_nil] at h
  omega

/-- No distance from five on is skipped when the surplus leaves come one by one. -/
theorem exists_widenedDistance_eq {d : Nat} (low : 5 ≤ d) (surplus : Nat) :
    d ≤ widenedDistance surplus → ∃ n, widenedDistance n = d := by
  induction surplus with
  | zero =>
      intro high
      have first := widenedDistance_le 0
      exact ⟨0, by omega⟩
  | succ n ih =>
      intro high
      have step := widenedDistance_succ_le n
      by_cases reached : d ≤ widenedDistance n
      · exact ih reached
      · exact ⟨n + 1, by omega⟩

theorem le_leastCost_widened (surplus : Nat) :
    surplus + 6 ≤ (deepTree.widened surplus).leastCost (flatTree.widened 0) := by
  have base : spareCost deepTree.outline flatTree.outline = 6 := by decide +kernel
  have lacks : Lacks (Label.of "c" "") flatTree.outline := by
    simp [flatTree, Tree.outline_branch, Forest.outline_cons, Lacks, Label.of]
  have h1 := leastCost_le_below (Label.of "c" "")
    (deepTree.outline ++ leaves (Label.of "c" "") surplus) flatTree.outline
  have h2 := spareCost_le_leastCost deepTree.outline (Label.of "c" "") surplus _ lacks
  rw [Tree.leastCost_eq, outline_widened, outline_widened]
  simp only [leaves, append_nil]
  omega

end Widening

/-- Reported distances of at most four never understate the least cost of an edit mapping, and
every greater one does for some trees, though by no more than a third of that cost. -/
theorem leastCost_le_editDistance_iff (d : Nat) :
    ((∀ a b : Tree, editDistance a b = d → a.leastCost b ≤ d) ↔ d ≤ 4)
      ∧ ∀ a b : Tree, editDistance a b = d → 2 * a.leastCost b ≤ 3 * d := by
  constructor
  · constructor
    · intro sound
      by_contra far
      obtain ⟨n, reached⟩ := exists_widenedDistance_eq (by omega) d (le_widenedDistance d)
      have h1 := sound (deepTree.widened n) (flatTree.widened 0) reached
      have h2 := le_leastCost_widened n
      have h3 := widenedDistance_le n
      omega
    · rintro near a b rfl
      rw [editDistance_eq, a.outline_eq, b.outline_eq] at near
      rw [Tree.leastCost_eq, editDistance_eq, a.outline_eq, b.outline_eq]
      exact Grove.leastCost_le_of_distance_le_four _ _ _ _ near
  · rintro a b rfl
    rw [Tree.leastCost_eq, editDistance_eq]
    exact Grove.leastCost_le_three_halves a.outline b.outline

/-- The distance of these two trees is five, but no edit mapping costs less than six. -/
theorem editDistance_lt_leastCost :
    editDistance deepTree flatTree = 5 ∧ deepTree.leastCost flatTree = 6 := by
  constructor
  · exact editDistance_deepTree
  · rw [Tree.leastCost_eq]
    decide +kernel

end Trees

end Likeness
