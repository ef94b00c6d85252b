import Likeness.Proofs.Equivalence.Variant
import Likeness.Proofs.Tree.Walk

/-!
# Equivalence when names are ignored

Whether names are ignored is asked at two kinds of nodes only: at identifiers, and at definitions
of functions.  All other rules hand the setting down to the children, and they choose the children
by kinds and operators, which are the same under both settings.  So a comparison that succeeds
under one setting succeeds under the other, node by node and with the same pairing of operands,
unless it comes across two names that differ.

**Main statements.**
* `carries_of_step`: the two settings at a node, from what they do at its children.
* `carries_of_names`: by induction, what they do at a tree.
* `ignoring_names_relaxes`: ignoring names adds equivalences and takes none away.
-/

namespace Likeness
namespace Equivalence

variable {a b : Tree}

/-- Two trees that are equivalent under one setting are equivalent under the other. -/
def Carries (ignoreNames ignoreNames' : Bool) (x y : Tree) : Prop :=
  equivalent ignoreNames x y = true → equivalent ignoreNames' x y = true

/-- Identifiers have the same text, and functions the same name. -/
def NamesAgree (x y : Tree) : Prop :=
  (x.kind = "identifier" → x.text = y.text) ∧ (x.kind = "function_definition" → name? x = name? y)

section Steps

variable {ignoreNames ignoreNames' : Bool}

theorem allEquivalent_of_step {as bs : List Tree}
    (step : ∀ x ∈ as, ∀ y ∈ bs, Carries ignoreNames ignoreNames' x y)
    (same : allEquivalent ignoreNames as bs = true) : allEquivalent ignoreNames' as bs = true := by
  rw [allEquivalent_iff] at same ⊢
  induction same with
  | nil => exact .nil
  | @cons x y as bs first rest ih =>
      refine .cons (step x (.head _) y (.head _) first) (ih ?_)
      intro x' hx y' hy
      exact step x' (.tail _ hx) y' (.tail _ hy)

theorem areEquivalent_of_step {a? b? : Option Tree}
    (step : ∀ x ∈ a?, ∀ y ∈ b?, Carries ignoreNames ignoreNames' x y)
    (same : areEquivalent ignoreNames a? b? = true) : areEquivalent ignoreNames' a? b? = true := by
  rcases a? with _ | x <;> rcases b? with _ | y
  · rfl
  · cases same
  · cases same
  · exact step x rfl y rfl same

variable (names : ignoreNames = true → ignoreNames' = false → NamesAgree a b)
  (step : ∀ x ∈ a.children, ∀ y ∈ b.children, Carries ignoreNames ignoreNames' x y)

include names in
theorem carries_of_name (ka : a.kind = "identifier") (kb : b.kind = "identifier") :
    Carries ignoreNames ignoreNames' a b := by
  intro same
  rw [equivalent_name_eq ka kb, Bool.or_eq_true, beq_iff_eq] at same ⊢
  cases other : ignoreNames' with
  | true => exact Or.inl rfl
  | false =>
      rcases same with ignored | text
      · exact Or.inr ((names ignored other).1 ka)
      · exact Or.inr text

include step in
/-- Operands that correspond straight or crosswise still correspond in the same way. -/
theorem carries_of_operation (ka : a.kind = "binary_operator") (kb : b.kind = "binary_operator") :
    Carries ignoreNames ignoreNames' a b := by
  intro same
  by_cases apart : ∀ operationA ∈ commutative? a, ∀ operationB ∈ commutative? b,
      operationA.2.2 ≠ operationB.2.2
  · rw [equivalent_operation_eq_of_ne ka kb apart] at same ⊢
    exact allEquivalent_of_step step same
  · push Not at apart
    obtain ⟨⟨leftA, rightA, symbol⟩, ca, ⟨leftB, rightB, _⟩, cb, rfl⟩ := apart
    obtain ⟨la, ra⟩ := mem_of_commutative? ca
    obtain ⟨lb, rb⟩ := mem_of_commutative? cb
    rw [equivalent_operation_eq ka kb ca cb] at same ⊢
    simp only [Bool.or_eq_true, Bool.and_eq_true] at same ⊢
    rcases same with ⟨left, right⟩ | ⟨left, right⟩
    · exact Or.inl ⟨step _ la _ lb left, step _ ra _ rb right⟩
    · exact Or.inr ⟨step _ la _ rb left, step _ ra _ lb right⟩

include names step in
theorem carries_of_function (ka : a.kind = "function_definition")
    (kb : b.kind = "function_definition") : Carries ignoreNames ignoreNames' a b := by
  intro same
  rw [equivalent_function_eq ka kb] at same ⊢
  simp only [Bool.and_eq_true, Bool.or_eq_true, beq_iff_eq] at same ⊢
  have selected (kind : String) : ∀ x ∈ a.childOfKind? kind, ∀ y ∈ b.childOfKind? kind,
      Carries ignoreNames ignoreNames' x y := by
    intro x hx y hy
    exact step x (List.mem_of_find?_eq_some hx) y (List.mem_of_find?_eq_some hy)
  refine ⟨⟨?_, areEquivalent_of_step (selected _) same.1.2⟩,
    areEquivalent_of_step (selected _) same.2⟩
  cases other : ignoreNames' with
  | true => exact Or.inl rfl
  | false =>
      rcases same.1.1 with ignored | called
      · exact Or.inr ((names ignored other).2 ka)
      · exact Or.inr called

include names step in
/-- What the settings do at two nodes, from what they do at their children. -/
theorem carries_of_step : Carries ignoreNames ignoreNames' a b := by
  intro same
  have kind := kind_eq_of_equivalent same
  rcases kind_cases a.kind with name | literal | operation | function | statement | plain
  · exact carries_of_name names name (kind ▸ name) same
  · rw [equivalent_literal_eq literal rfl kind.symm] at same ⊢
    exact same
  · exact carries_of_operation step operation (kind ▸ operation) same
  · exact carries_of_function names step function (kind ▸ function) same
  · rw [equivalent_return_eq statement (kind ▸ statement)] at same ⊢
    refine areEquivalent_of_step ?_ same
    intro x hx y hy
    exact step x (List.mem_of_find?_eq_some hx) y (List.mem_of_find?_eq_some hy)
  · rw [equivalent_plain_eq plain rfl kind.symm] at same ⊢
    exact allEquivalent_of_step step same

end Steps

/-- By induction on the size, the step lemma at each node. -/
theorem carries_of_names (ignoreNames ignoreNames' : Bool) (a b : Tree)
    (names : ∀ x ∈ a.preorder, ∀ y ∈ b.preorder, x.kind = y.kind → ignoreNames = true →
      ignoreNames' = false → NamesAgree x y) : Carries ignoreNames ignoreNames' a b := by
  intro same
  refine carries_of_step ?_ ?_ same
  · exact names a a.mem_preorder_self b b.mem_preorder_self (kind_eq_of_equivalent same)
  · intro x hx y hy
    refine carries_of_names ignoreNames ignoreNames' x y ?_
    intro x' hx' y' hy'
    exact names x' (Tree.mem_preorder_of_mem hx hx') y' (Tree.mem_preorder_of_mem hy hy')
termination_by a.size
decreasing_by exact Tree.size_lt_of_mem hx

/-- Trees that are equivalent with their names are equivalent without.  The converse fails only if
an identifier of the one has another text than one of the other, or a function another name. -/
theorem ignoring_names_relaxes (a b : Option Tree) :
    (areEquivalent false a b = true → areEquivalent true a b = true) ∧
      (areEquivalent true a b = true → areEquivalent false a b = false →
        ∃ s ∈ a, ∃ t ∈ b, ∃ x ∈ s.preorder, ∃ y ∈ t.preorder,
          x.kind = y.kind ∧ ¬NamesAgree x y) := by
  constructor
  · refine areEquivalent_of_step ?_
    intro x _ y _
    exact carries_of_names false true x y (fun _ _ _ _ _ ignored => nomatch ignored)
  · intro ignoring counting
    by_contra agree
    push Not at agree
    have same : areEquivalent false a b = true := by
      refine areEquivalent_of_step ?_ ignoring
      intro s hs t ht
      refine carries_of_names true false s t ?_
      intro x hx y hy kind _ _
      exact agree s hs t ht x hx y hy kind
    rw [counting] at same
    cases same

section Samples

/-- A function that returns `2 * (b + a)`. -/
def doubledBackwards : Tree :=
  functionOf "twice" "a" "b" (tokenProduct (.leaf "integer" "2") (compactSum "b" "a"))

/-- With names the operands of the sum correspond crosswise, and without names straight as well. -/
theorem ignoring_names_relaxes_doubled :
    areEquivalent false (some doubled) (some doubledBackwards) = true ∧
      areEquivalent true (some doubled) (some doubledBackwards) = true ∧
      areEquivalent true (some doubled) (some doubledAnew) = true ∧
      areEquivalent false (some doubled) (some doubledAnew) = false ∧
      ∃ x ∈ doubled.preorder, ∃ y ∈ doubledAnew.preorder, x.kind = y.kind ∧ ¬NamesAgree x y := by
  have backwards : areEquivalent false (some doubled) (some doubledBackwards) = true := by
    decide +kernel
  have ignoring : areEquivalent true (some doubled) (some doubledAnew) = true := by
    decide +kernel
  have counting : areEquivalent false (some doubled) (some doubledAnew) = false := by
    decide +kernel
  obtain ⟨_, ⟨⟩, _, ⟨⟩, differ⟩ := (ignoring_names_relaxes _ _).2 ignoring counting
  exact ⟨backwards, (ignoring_names_relaxes _ _).1 backwards, ignoring, counting, differ⟩

end Samples

end Equivalence
end Likeness
