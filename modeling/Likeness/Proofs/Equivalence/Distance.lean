import Likeness.Proofs.EditDistance.Metric
import Likeness.Proofs.Equivalence.Congruence

/-!
# Trees at distance zero are equivalent

The edit distance and equivalence look at different things: the one at the kinds of all nodes and
at the texts of the textual kinds, the other also at operators, at the names of functions and at
selected children.  Still the finer judgement of the two is the distance, as far as it tells
trees apart at all: trees at distance zero are alike, and alike trees are equivalent by the
congruence of equivalence, even where the operators that the distance does not look at differ.

**Main statements.**
* `equivalent_of_alike`: alike trees are equivalent.
* `equivalent_at_distance_zero`: so are trees at distance zero, and each tree to itself.
-/

namespace Likeness
namespace Equivalence

variable {ignoreNames : Bool}

/-- Each text that equivalence compares is part of a label. -/
theorem isTextual_of_textCounts {kind : String} (counts : TextCounts ignoreNames kind) :
    EditDistance.isTextual kind = true := by
  rcases counts with literal | ⟨rfl, _⟩
  · simp only [literalKinds, List.mem_cons, List.not_mem_nil, or_false] at literal
    rcases literal with rfl | rfl | rfl | rfl <;> decide
  · decide

mutual

theorem equivalent_of_alike {a b : Tree} (alike : a.Alike b) :
    equivalent ignoreNames a b = true := by
  cases a with
  | mk kind text start? stop? children =>
      cases b with
      | mk kind' text' start?' stop?' children' =>
          rw [Tree.Alike] at alike
          obtain ⟨same, texts, below⟩ := alike
          exact equivalent_of_children same (fun counts => texts (isTextual_of_textCounts counts))
            (allEquivalent_of_alike below)

theorem allEquivalent_of_alike {as bs : List Tree} (alike : Forest.Alike as bs) :
    allEquivalent ignoreNames as bs = true := by
  match as, bs with
  | [], [] => rw [allEquivalent]
  | [], b :: bs => simp [Forest.Alike] at alike
  | a :: as, [] => simp [Forest.Alike] at alike
  | a :: as, b :: bs =>
      rw [Forest.Alike] at alike
      rw [allEquivalent, equivalent_of_alike alike.1, allEquivalent_of_alike alike.2]
      rfl

end

/-- An absent tree is at distance zero from an absent tree only, and a tree from those alike. -/
theorem alike_of_editDistance?_eq_zero {a b : Option Tree} (h : editDistance? a b = 0) :
    Option.Rel Tree.Alike a b := by
  have same := outline?_eq_of_editDistance?_eq_zero h
  cases a with
  | none =>
      cases b with
      | none => exact Option.Rel.none
      | some b => exact absurd same.symm b.outline_ne_nil
  | some a =>
      cases b with
      | none => exact absurd same a.outline_ne_nil
      | some b => exact Option.Rel.some ((Tree.outline_eq_iff a b).1 same)

theorem areEquivalent_of_alike {a b : Option Tree} (alike : Option.Rel Tree.Alike a b) :
    areEquivalent ignoreNames a b = true := by
  cases alike with
  | none => rfl
  | some alike => exact equivalent_of_alike alike

/-- Trees at distance zero are equivalent, whether names are ignored or not.  In particular each
tree is equivalent to itself. -/
theorem equivalent_at_distance_zero (a b : Option Tree) :
    (editDistance? a b = 0 → areEquivalent false a b = true ∧ areEquivalent true a b = true) ∧
      areEquivalent false a a = true ∧ areEquivalent true a a = true := by
  constructor
  · intro zero
    have alike := alike_of_editDistance?_eq_zero zero
    exact ⟨areEquivalent_of_alike alike, areEquivalent_of_alike alike⟩
  · cases a with
    | none => exact ⟨rfl, rfl⟩
    | some a => exact ⟨equivalent_self a, equivalent_self a⟩

/-- A function without parameters that returns `x` and `y` under an operator. -/
def combination (symbol : String) : Tree :=
  .branch "function_definition"
    [.leaf "identifier" "combine",
      .branch "block"
        [.branch "return_statement"
          [.leaf "return" "return",
            ⟨"binary_operator", symbol, none, none,
              [.leaf "identifier" "x", .leaf "identifier" "y"]⟩]]]

theorem equivalent_at_distance_zero_combination :
    editDistance? (some (combination "+")) (some (combination "-")) = 0 ∧
      areEquivalent false (some (combination "+")) (some (combination "-")) = true := by
  have alike : (combination "+").Alike (combination "-") := by
    simp [combination, Tree.branch, Tree.leaf, Tree.Alike, Forest.Alike, EditDistance.isTextual,
      EditDistance.textualKinds]
  have zero : editDistance? (some (combination "+")) (some (combination "-")) = 0 := by
    rw [editDistance?_eq, outline?, outline?, (Tree.outline_eq_iff _ _).2 alike,
      Grove.distance_self]
  exact ⟨zero, ((equivalent_at_distance_zero _ _).1 zero).1⟩

end Equivalence
end Likeness
