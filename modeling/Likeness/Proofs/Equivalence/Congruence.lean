import Likeness.Proofs.Equivalence.Operators

/-!
# Equivalence is a congruence

Some rules of equivalence select children by their kinds, and the operands of an operation may be
compared crosswise.  Nodes of one kind whose children are equivalent one by one are equivalent all
the same, as long as a text that counts is the same in both: children that correspond to each
other have the same kinds, so the same ones are selected, and operands that correspond straight
need not be crossed.

**Main statements.**
* `equivalent_of_children`: equivalence of the children is enough, whatever the kind.
* `equivalent_self`: every tree is equivalent to itself.
-/

namespace Likeness
namespace Equivalence

variable {ignoreNames : Bool} {a b : Tree}

/-- Every kind has a rule. -/
theorem kind_cases (kind : String) :
    kind = "identifier" ∨ kind ∈ literalKinds ∨ kind = "binary_operator" ∨
      kind = "function_definition" ∨ kind = "return_statement" ∨ kind ∉ specialKinds := by
  by_cases special : kind ∈ specialKinds
  · simp only [specialKinds, List.mem_cons] at special
    rcases special with name | operation | function | statement | literal
    · exact Or.inl name
    · exact Or.inr (Or.inr (Or.inl operation))
    · exact Or.inr (Or.inr (Or.inr (Or.inl function)))
    · exact Or.inr (Or.inr (Or.inr (Or.inr (Or.inl statement))))
    · exact Or.inr (Or.inl literal)
  · exact Or.inr (Or.inr (Or.inr (Or.inr (Or.inr special))))

section Selecting

/-- In forests that are equivalent tree by tree, the first trees of certain kinds are
equivalent. -/
theorem areEquivalent_find? (selects : String → Bool) {as bs : List Tree}
    (children : allEquivalent ignoreNames as bs = true) :
    areEquivalent ignoreNames (as.find? (fun child => selects child.kind))
      (bs.find? (fun child => selects child.kind)) = true := by
  induction allEquivalent_iff.1 children with
  | nil => rfl
  | @cons x y as bs same rest ih =>
      rw [List.find?_cons, List.find?_cons, ← kind_eq_of_equivalent same]
      cases selects x.kind with
      | true => exact same
      | false => exact ih (allEquivalent_iff.2 rest)

theorem areEquivalent_childOfKind? (kind : String)
    (children : allEquivalent ignoreNames a.children b.children = true) :
    areEquivalent ignoreNames (a.childOfKind? kind) (b.childOfKind? kind) = true :=
  areEquivalent_find? (fun other => other == kind) children

theorem areEquivalent_returned?
    (children : allEquivalent ignoreNames a.children b.children = true) :
    areEquivalent ignoreNames (returned? a) (returned? b) = true :=
  areEquivalent_find? (fun kind => kind != "return") children

theorem kind_of_childOfKind? {kind : String} {child : Tree}
    (h : a.childOfKind? kind = some child) : child.kind = kind := by
  have found := List.find?_some h
  simpa using found

/-- The first identifiers give the same name if they are equivalent and names count. -/
theorem name?_eq_of_areEquivalent
    (h : areEquivalent false (a.childOfKind? "identifier") (b.childOfKind? "identifier") = true) :
    name? a = name? b := by
  rw [name?, name?]
  cases ha : a.childOfKind? "identifier" with
  | none =>
      cases hb : b.childOfKind? "identifier" with
      | none => rfl
      | some y => simp [ha, hb, areEquivalent] at h
  | some x =>
      cases hb : b.childOfKind? "identifier" with
      | none => simp [ha, hb, areEquivalent] at h
      | some y =>
          rw [ha, hb, areEquivalent,
            equivalent_name_eq (kind_of_childOfKind? ha) (kind_of_childOfKind? hb)] at h
          simpa using h

end Selecting

section Operands

theorem commutative?_eq_some_iff {left right : Tree} {symbol : String} :
    commutative? a = some (left, right, symbol) ↔
      operation? a = some (left, right, symbol) ∧ symbol ∈ commutativeOperators := by
  rw [commutative?, Option.filter_eq_some_iff, List.contains_iff_mem]

variable {leftA rightA leftB rightB : Tree} {symbol : String}

/-- Operations with one commutative operator are equivalent if their operands are, in order. -/
theorem equivalent_of_straight (ka : a.kind = "binary_operator") (kb : b.kind = "binary_operator")
    (oa : operation? a = some (leftA, rightA, symbol))
    (ob : operation? b = some (leftB, rightB, symbol)) (may : symbol ∈ commutativeOperators)
    (left : equivalent ignoreNames leftA leftB = true)
    (right : equivalent ignoreNames rightA rightB = true) : equivalent ignoreNames a b = true := by
  rw [equivalent_operation_eq ka kb (commutative?_eq_some_iff.2 ⟨oa, may⟩)
    (commutative?_eq_some_iff.2 ⟨ob, may⟩), left, right, Bool.and_self, Bool.true_or]

/-- They are equivalent as well if their operands are crosswise. -/
theorem equivalent_of_crossed (ka : a.kind = "binary_operator") (kb : b.kind = "binary_operator")
    (oa : operation? a = some (leftA, rightA, symbol))
    (ob : operation? b = some (leftB, rightB, symbol)) (may : symbol ∈ commutativeOperators)
    (left : equivalent ignoreNames leftA rightB = true)
    (right : equivalent ignoreNames rightA leftB = true) : equivalent ignoreNames a b = true := by
  rw [equivalent_operation_eq ka kb (commutative?_eq_some_iff.2 ⟨oa, may⟩)
    (commutative?_eq_some_iff.2 ⟨ob, may⟩), left, right, Bool.and_self, Bool.or_true]

/-- Operands stand at the same places among the children, if there are as many children. -/
theorem operands_of_children {symbolA symbolB : String}
    (oa : operation? a = some (leftA, rightA, symbolA))
    (ob : operation? b = some (leftB, rightB, symbolB))
    (children : allEquivalent ignoreNames a.children b.children = true) :
    equivalent ignoreNames leftA leftB = true ∧ equivalent ignoreNames rightA rightB = true := by
  rw [allEquivalent_iff] at children
  rcases operation?_eq_some_iff.1 oa with ⟨tokenA, childrenA, _⟩ | ⟨childrenA, _⟩ <;>
    rcases operation?_eq_some_iff.1 ob with ⟨tokenB, childrenB, _⟩ | ⟨childrenB, _⟩ <;>
      simp only [childrenA, childrenB, List.forall₂_cons, List.forall₂_nil_left_iff,
        List.forall₂_nil_right_iff, reduceCtorEq, and_false, and_true] at children
  · exact ⟨children.1, children.2.2⟩
  · exact children

end Operands

/-- The text of a node of this kind is compared. -/
def TextCounts (ignoreNames : Bool) (kind : String) : Prop :=
  kind ∈ literalKinds ∨ kind = "identifier" ∧ ignoreNames = false

/-- Nodes of one kind are equivalent if their children are and, where it counts, their texts are
the same. -/
theorem equivalent_of_children (kind : a.kind = b.kind)
    (text : TextCounts ignoreNames a.kind → a.text = b.text)
    (children : allEquivalent ignoreNames a.children b.children = true) :
    equivalent ignoreNames a b = true := by
  rcases kind_cases a.kind with name | literal | operation | function | statement | plain
  · rw [equivalent_name_eq name (kind ▸ name)]
    cases ignoreNames with
    | true => rfl
    | false => simpa using text (Or.inr ⟨name, rfl⟩)
  · rw [equivalent_literal_eq literal rfl kind.symm]
    simpa using text (Or.inl literal)
  · by_cases apart : ∀ operationA ∈ commutative? a, ∀ operationB ∈ commutative? b,
        operationA.2.2 ≠ operationB.2.2
    · rw [equivalent_operation_eq_of_ne operation (kind ▸ operation) apart]
      exact children
    · push Not at apart
      obtain ⟨⟨leftA, rightA, symbol⟩, ca, ⟨leftB, rightB, _⟩, cb, rfl⟩ := apart
      obtain ⟨oa, may⟩ := commutative?_eq_some_iff.1 ca
      obtain ⟨ob, _⟩ := commutative?_eq_some_iff.1 cb
      obtain ⟨left, right⟩ := operands_of_children oa ob children
      exact equivalent_of_straight operation (kind ▸ operation) oa ob may left right
  · rw [equivalent_function_eq function (kind ▸ function),
      areEquivalent_childOfKind? "parameters" children,
      areEquivalent_childOfKind? "block" children]
    cases ignoreNames with
    | true => rfl
    | false =>
        have names := name?_eq_of_areEquivalent (areEquivalent_childOfKind? "identifier" children)
        simp [names]
  · rw [equivalent_return_eq statement (kind ▸ statement)]
    exact areEquivalent_returned? children
  · rw [equivalent_plain_eq plain rfl kind.symm]
    exact children

mutual

/-- Every tree is equivalent to itself. -/
theorem equivalent_self (tree : Tree) : equivalent ignoreNames tree tree = true := by
  cases tree with
  | mk kind text start? stop? children =>
      exact equivalent_of_children rfl (fun _ => rfl) (allEquivalent_self children)

theorem allEquivalent_self (forest : List Tree) :
    allEquivalent ignoreNames forest forest = true := by
  cases forest with
  | nil => rw [allEquivalent]
  | cons tree rest =>
      rw [allEquivalent, equivalent_self tree, allEquivalent_self rest]
      rfl

end

end Equivalence
end Likeness
