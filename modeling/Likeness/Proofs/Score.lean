import Mathlib.Algebra.Order.Field.Rat
import Mathlib.Algebra.Order.Field.Basic
import Mathlib.Data.Rat.Cast.Order
import Likeness.Similarity
import Likeness.Proofs.EditDistance.Metric

/-!
# Scores of trees that are there

Two trees are never as far apart as deleting all of one and inserting all of the other: their
roots can always be matched, which saves two edits and costs at most one.  So the bound on the
distance is reached only if a tree is absent, and in exact arithmetic the similarity of two trees
is a positive number, whereas a pair that was not compared has the similarity zero.

The rule of similarity is stated for numbers of any kind, so that what is computed in floating
point and what is said of rational numbers are two instances of one rule.

A score looks at nothing of a tree but its outline.  So trees that are at distance zero from each
other have the same scores with all others.

**Main statements.**
* `similarity_eq`: the similarity that is computed is an instance of the rule.
* `editDistance_add_two_le`: matching the roots.
* `score_within_bound`: what this says of a score.
* `scores_interchangeable`: a score does not change with trees of the same outline.
-/

namespace Likeness

section Rule

variable {K : Type} [OfNat K 0] [OfNat K 1] [LT K] [DecidableLT K]

/-- A number of any kind, moved into the interval from zero to one. -/
def clampIn (x : K) : K :=
  if x < 0 then 0 else if 1 < x then 1 else x

variable [Sub K] [Div K]

/-- Similarity for a distance and its upper bound, in numbers of any kind; `number` says which of
them stands for a natural number. -/
def similarityIn (number : Nat → K) (distance bound : Nat) : K :=
  if bound = 0 then
    if distance = 0 then 1 else 0
  else
    clampIn (1 - number distance / number bound)

/-- The similarity that is computed follows the rule in floating point. -/
theorem similarity_eq (distance bound : Nat) :
    similarity distance bound = .ofFloat (similarityIn Float.ofNat distance bound) := by
  have zero : (0.0 : Float) = 0 := by decide +kernel
  have one : (1.0 : Float) = 1 := by decide +kernel
  unfold similarity similarityIn
  split
  · split <;> decide +kernel
  · rw [clampUnit, zero, one]
    rfl

end Rule

section Exact

variable {distance bound : Nat}

/-- In exact arithmetic a similarity is in its interval already, if the distance respects its
bound. -/
theorem clampIn_eq (le : distance ≤ bound) :
    clampIn (1 - (distance : ℚ) / bound) = 1 - distance / bound := by
  have quotient : (distance : ℚ) / bound ≤ 1 :=
    div_le_one_of_le₀ (Nat.cast_le.2 le) (Nat.cast_nonneg bound)
  have positive : (0 : ℚ) ≤ distance / bound := div_nonneg (Nat.cast_nonneg _) (Nat.cast_nonneg _)
  rw [clampIn, if_neg (not_lt.2 (sub_nonneg.2 quotient)), if_neg (not_lt.2 (sub_le_self 1 positive))]

theorem similarityIn_pos (less : distance < bound) :
    0 < similarityIn (Nat.cast : Nat → ℚ) distance bound := by
  have quotient : (distance : ℚ) / bound < 1 :=
    (div_lt_one (Nat.cast_pos.2 (Nat.zero_lt_of_lt less))).2 (Nat.cast_lt.2 less)
  rw [similarityIn, if_neg (Nat.ne_zero_of_lt less), clampIn_eq (Nat.le_of_lt less)]
  exact sub_pos.2 quotient

end Exact

section Scores

open EditDistance

/-- Two trees are no further apart than matching their roots and removing everything else. -/
theorem editDistance_add_two_le (a b : Tree) :
    editDistance a b + 2 ≤ a.count + b.count + nodeCost (some a) (some b) := by
  have matched := Grove.distance_match_le .nil a.label (Forest.outline a.children) .nil b.label
    (Forest.outline b.children)
  have below := Grove.distanceBelow_le .nil .nil (Forest.outline a.children)
    (Forest.outline b.children)
  rw [Forest.size_outline, Forest.size_outline] at below
  rw [← Tree.outline_eq, ← Tree.outline_eq, ← editDistance_eq, Grove.distance_self,
    ← substitution_eq_relabel] at matched
  rw [Tree.count_eq, Tree.count_eq, a.size_eq, b.size_eq, nodeCost]
  omega

theorem editDistance_lt (a b : Tree) : editDistance a b < a.count + b.count := by
  have matched := editDistance_add_two_le a b
  have relabelled : nodeCost (some a) (some b) ≤ 1 := substitution_le_one a b
  omega

theorem score_distance_le (a b : Option Tree) : (score a b).distance ≤ (score a b).bound := by
  rcases a with _ | a <;> rcases b with _ | b
  · exact Nat.zero_le _
  · exact Nat.le_add_left _ _
  · exact Nat.le_add_right _ _
  · exact Nat.le_of_lt (editDistance_lt a b)

theorem score_distance_eq_bound_iff (a b : Option Tree) :
    (score a b).distance = (score a b).bound ↔ a = none ∨ b = none := by
  rcases a with _ | a <;> rcases b with _ | b
  · exact iff_of_true rfl (Or.inl rfl)
  · exact iff_of_true (Nat.zero_add _).symm (Or.inl rfl)
  · exact iff_of_true rfl (Or.inr rfl)
  · exact iff_of_false (Nat.ne_of_lt (editDistance_lt a b)) (by simp)

/-- A distance respects its bound and reaches it only if a tree is absent.  If both trees are
there, it stays below the bound by one, and by two if their roots have the same label.  Hence, in
exact arithmetic, a similarity need not be moved into its interval, and that of two trees that
are there is positive. -/
theorem score_within_bound :
    (∀ a b : Option Tree,
      (score a b).distance ≤ (score a b).bound
        ∧ ((score a b).distance = (score a b).bound ↔ a = none ∨ b = none)
        ∧ (score a b).similarity
            = .ofFloat (similarityIn Float.ofNat (score a b).distance (score a b).bound)
        ∧ clampIn (1 - ((score a b).distance : ℚ) / (score a b).bound)
            = 1 - (score a b).distance / (score a b).bound)
      ∧ ∀ a b : Tree,
        (score (some a) (some b)).distance + 1 ≤ a.count + b.count
          ∧ (score (some a) (some b)).distance + 2
              ≤ a.count + b.count + nodeCost (some a) (some b)
          ∧ 0 < similarityIn (Nat.cast : Nat → ℚ) (score (some a) (some b)).distance
              (score (some a) (some b)).bound := by
  constructor
  · intro a b
    have le := score_distance_le a b
    exact ⟨le, score_distance_eq_bound_iff a b, similarity_eq _ _, clampIn_eq le⟩
  · intro a b
    have less := editDistance_lt a b
    exact ⟨less, editDistance_add_two_le a b, similarityIn_pos less⟩

end Scores

section Interchanging

variable {a a' b b' : Option Tree}

theorem distanceBound_eq (a b : Option Tree) :
    distanceBound a b = (outline? a).size + (outline? b).size := by
  have countNodes_eq (tree : Option Tree) : countNodes tree = (outline? tree).size := by
    rcases tree with _ | tree
    · rfl
    · rw [outline?, Tree.size_outline, ← Tree.count_eq]
      rfl
  rw [distanceBound, countNodes_eq, countNodes_eq]

theorem score_congr (left : outline? a = outline? a') (right : outline? b = outline? b') :
    score a b = score a' b' := by
  rw [score, score, editDistance?_eq, editDistance?_eq, distanceBound_eq, distanceBound_eq, left,
    right]

/-- Trees at distance zero have the same distances and scores with every other tree, on either
side.  What a score depends on is the shape of the two trees, the kinds of their nodes and the
texts of the textual kinds: neither positions nor other texts change it. -/
theorem scores_interchangeable :
    (∀ a a' b : Option Tree, editDistance? a a' = 0 →
      editDistance? a b = editDistance? a' b ∧ editDistance? b a = editDistance? b a'
        ∧ score a b = score a' b ∧ score b a = score b a')
      ∧ (∀ a a' b : Tree, editDistance? (some a) (some a') = 0 →
        scorePair a b = scorePair a' b ∧ scorePair b a = scorePair b a')
      ∧ ∀ a a' b b' : Tree, a.Alike a' → b.Alike b' → scorePair a b = scorePair a' b' := by
  refine ⟨?_, ?_, ?_⟩
  · intro a a' b zero
    have same := outline?_eq_of_editDistance?_eq_zero zero
    refine ⟨?_, ?_, score_congr same rfl, score_congr rfl same⟩
    · rw [editDistance?_eq, editDistance?_eq, same]
    · rw [editDistance?_eq, editDistance?_eq, same]
  · intro a a' b zero
    have same := outline?_eq_of_editDistance?_eq_zero zero
    exact ⟨score_congr same rfl, score_congr rfl same⟩
  · intro a a' b b' left right
    exact score_congr ((Tree.outline_eq_iff a a').2 left) ((Tree.outline_eq_iff b b').2 right)

/-- A call at a place of the source text. -/
def placedCall (text : String) (row : UInt32) : Tree :=
  ⟨"call", text, some ⟨row, 0⟩, none, [.leaf "identifier" "f", .leaf "integer" "1"]⟩

theorem scores_interchangeable_placed :
    editDistance? (some (placedCall "f(1)" 0)) (some (placedCall "f( 1 )" 7)) = 0
      ∧ (placedCall "f(1)" 0).Alike (placedCall "f( 1 )" 7)
      ∧ scorePair (placedCall "f(1)" 0) (.leaf "identifier" "f")
          = scorePair (placedCall "f( 1 )" 7) (.leaf "identifier" "f")
      ∧ scorePair (placedCall "f(1)" 0) (placedCall "f( 1 )" 7)
          = scorePair (placedCall "f( 1 )" 7) (placedCall "f(1)" 0) := by
  have alike (text text' : String) (row row' : UInt32) :
      (placedCall text row).Alike (placedCall text' row') := by
    simp [placedCall, Tree.leaf, Tree.Alike, Forest.Alike, EditDistance.isTextual,
      EditDistance.textualKinds]
  have zero : editDistance? (some (placedCall "f(1)" 0)) (some (placedCall "f( 1 )" 7)) = 0 :=
    (editDistance_eq_zero_iff _ _).2 (alike _ _ _ _)
  exact ⟨zero, alike _ _ _ _, (scores_interchangeable.2.1 _ _ _ zero).1,
    scores_interchangeable.2.2 _ _ _ _ (alike _ _ _ _) (alike _ _ _ _)⟩

end Interchanging

end Likeness
