import Likeness.Proofs.Equivalence.Rules

/-!
# Operators of equivalent operations

Two operations with the same commutative operator are compared operand by operand.  All others
are compared child by child, and that comparison reads an operator only as far as it reads a
child: the text of an operation is not looked at, and the text of a token only if the token is
an identifier or a literal.  So operations with different operators can be equivalent.

**Main statements.**
* `equivalent_of_symbol_ne_iff`: when two operations with different operators are equivalent.
* `equivalent_bare_iff`: when two tokens are equivalent.
* `other_operator_passes_iff`: the exact condition, and the operators that always have to match.
-/

namespace Likeness
namespace Equivalence

variable {ignoreNames : Bool} {a b : Tree}

section Symbols

/-- The operator of an operation that has it between its operands. -/
def token? (node : Tree) : Option Tree :=
  match node.children with
  | [_, token, _] => some token
  | _ => none

theorem operation?_eq_some_iff {left right : Tree} {symbol : String} :
    operation? a = some (left, right, symbol) ↔
      (∃ token, a.children = [left, token, right] ∧ operatorSymbol token = symbol) ∨
        (a.children = [left, right] ∧ trim a.text = symbol) := by
  constructor
  · intro h
    unfold operation? at h
    split at h
    · next first token second children =>
        obtain ⟨rfl, rfl, rfl⟩ := h
        exact Or.inl ⟨token, children, rfl⟩
    · next first second children =>
        obtain ⟨rfl, rfl, rfl⟩ := h
        exact Or.inr ⟨children, rfl⟩
    · cases h
  · rintro (⟨token, children, rfl⟩ | ⟨children, rfl⟩)
    · simp [operation?, children]
    · simp [operation?, children]

theorem symbol_of_commutative? {left right : Tree} {symbol : String}
    (operation : operation? a = some (left, right, symbol)) {other : Tree × Tree × String}
    (h : commutative? a = some other) : other.2.2 = symbol := by
  have same := (Option.filter_eq_some_iff.1 h).1
  rw [operation, Option.some.injEq] at same
  rw [← same]

theorem operatorSymbol_eq_of_text {x y : Tree} (kind : x.kind = y.kind) (text : x.text = y.text) :
    operatorSymbol x = operatorSymbol y := by
  rw [operatorSymbol, operatorSymbol, kind, text]

end Symbols

section Overlooking

/-- Two operations with different operators are equivalent if their operands and their tokens
correspond to each other one by one. -/
theorem equivalent_of_symbol_ne_iff {leftA rightA leftB rightB : Tree} {symbolA symbolB : String}
    (ka : a.kind = "binary_operator") (kb : b.kind = "binary_operator")
    (oa : operation? a = some (leftA, rightA, symbolA))
    (ob : operation? b = some (leftB, rightB, symbolB)) (other : symbolA ≠ symbolB) :
    equivalent ignoreNames a b = true ↔
      equivalent ignoreNames leftA leftB = true ∧ equivalent ignoreNames rightA rightB = true ∧
        areEquivalent ignoreNames (token? a) (token? b) = true := by
  have apart : ∀ operationA ∈ commutative? a, ∀ operationB ∈ commutative? b,
      operationA.2.2 ≠ operationB.2.2 := by
    intro operationA ca operationB cb
    rw [symbol_of_commutative? oa ca, symbol_of_commutative? ob cb]
    exact other
  rw [equivalent_operation_eq_of_ne ka kb apart, allEquivalent_iff]
  -- two forms each; operations of different forms have different numbers of children
  rcases operation?_eq_some_iff.1 oa with ⟨tokenA, childrenA, _⟩ | ⟨childrenA, _⟩ <;>
    rcases operation?_eq_some_iff.1 ob with ⟨tokenB, childrenB, _⟩ | ⟨childrenB, _⟩
  · simp only [childrenA, childrenB, token?, areEquivalent, List.forall₂_cons,
      List.forall₂_nil_left_iff, and_true]
    exact and_congr_right' and_comm
  · simp [childrenA, childrenB, token?, areEquivalent]
  · simp [childrenA, childrenB, token?, areEquivalent]
  · simp [childrenA, childrenB, token?, areEquivalent]

/-- Two nodes without children are equivalent if they are of the same kind, and have the same text
if they are literals or names that count. -/
theorem equivalent_bare_iff (bareA : a.children = []) (bareB : b.children = []) :
    equivalent ignoreNames a b = true ↔
      a.kind = b.kind ∧
        (a.kind ∈ literalKinds ∨ a.kind = "identifier" ∧ ignoreNames = false →
          a.text = b.text) := by
  by_cases same : a.kind = b.kind
  · rw [and_iff_right same]
    by_cases literal : a.kind ∈ literalKinds
    · rw [equivalent_literal_eq literal rfl same.symm, beq_iff_eq]
      exact ⟨fun text _ => text, fun text => text (Or.inl literal)⟩
    · by_cases name : a.kind = "identifier"
      · rw [equivalent_name_eq name (same ▸ name)]
        cases ignoreNames <;> simp [name, literalKinds]
      · have passes : equivalent ignoreNames a b = true := by
          by_cases operation : a.kind = "binary_operator"
          · rw [equivalent_operation_eq_of_ne operation (same ▸ operation)
              (by simp [commutative?, operation?, bareA]), bareA, bareB, allEquivalent]
          · by_cases function : a.kind = "function_definition"
            · rw [equivalent_function_eq function (same ▸ function)]
              simp [Tree.childOfKind?, name?, bareA, bareB, areEquivalent]
            · by_cases statement : a.kind = "return_statement"
              · rw [equivalent_return_eq statement (same ▸ statement)]
                simp [returned?, bareA, bareB, areEquivalent]
              · have plain : a.kind ∉ specialKinds := by
                  simp [specialKinds, name, operation, function, statement, literal]
                rw [equivalent_plain_eq plain rfl same.symm, bareA, bareB, allEquivalent]
        simp [passes, literal, name]
  · have apart : equivalent ignoreNames a b ≠ true := fun h => same (kind_eq_of_equivalent h)
    simp [same, apart]

/-- The operator stands between the operands and its token is of that kind. -/
def SpellsOperator (node : Tree) : Prop :=
  ∃ token, token? node = some token ∧ operatorSymbol token = token.kind

theorem symbol_of_token? {left right token : Tree} {symbol : String}
    (operation : operation? a = some (left, right, symbol)) (there : token? a = some token) :
    operatorSymbol token = symbol := by
  rcases operation?_eq_some_iff.1 operation with ⟨other, children, rfl⟩ | ⟨children, _⟩
  · rw [token?, children] at there
    obtain rfl : other = token := Option.some.inj there
    rfl
  · rw [token?, children] at there
    cases there

/-- Childless tokens for different operators are equivalent unless their texts count. -/
theorem equivalent_tokens_iff {x y : Tree} (bareX : x.children = []) (bareY : y.children = [])
    (other : operatorSymbol x ≠ operatorSymbol y) :
    equivalent ignoreNames x y = true ↔
      x.kind = y.kind ∧ x.kind ∉ literalKinds ∧ (x.kind = "identifier" → ignoreNames = true) := by
  rw [equivalent_bare_iff bareX bareY]
  refine and_congr_right fun kind => ?_
  have differ : x.text ≠ y.text := fun text => other (operatorSymbol_eq_of_text kind text)
  cases ignoreNames <;> simp [differ]

/-- Two operations with different operators are equivalent exactly if their operands correspond to
each other one by one, and either both have their operators as texts or their tokens are
equivalent.  Childless tokens are if they are of the same kind and not of one whose text counts.
Operators that stand between the operands as tokens of their own kinds always have to match. -/
theorem other_operator_passes_iff {leftA rightA leftB rightB : Tree} {symbolA symbolB : String}
    (ka : a.kind = "binary_operator") (kb : b.kind = "binary_operator")
    (oa : operation? a = some (leftA, rightA, symbolA))
    (ob : operation? b = some (leftB, rightB, symbolB)) :
    (symbolA ≠ symbolB →
      (equivalent ignoreNames a b = true ↔
        equivalent ignoreNames leftA leftB = true ∧ equivalent ignoreNames rightA rightB = true ∧
          areEquivalent ignoreNames (token? a) (token? b) = true) ∧
      ∀ x y, token? a = some x → token? b = some y → x.children = [] → y.children = [] →
        (equivalent ignoreNames x y = true ↔
          x.kind = y.kind ∧ x.kind ∉ literalKinds ∧
            (x.kind = "identifier" → ignoreNames = true))) ∧
    (SpellsOperator a → SpellsOperator b → equivalent ignoreNames a b = true →
      symbolA = symbolB) := by
  constructor
  · intro other
    refine ⟨equivalent_of_symbol_ne_iff ka kb oa ob other, ?_⟩
    intro x y hx hy bareX bareY
    refine equivalent_tokens_iff bareX bareY ?_
    rw [symbol_of_token? oa hx, symbol_of_token? ob hy]
    exact other
  · rintro ⟨x, hx, spellsX⟩ ⟨y, hy, spellsY⟩ same
    by_contra other
    obtain ⟨_, _, tokens⟩ := (equivalent_of_symbol_ne_iff ka kb oa ob other).1 same
    rw [hx, hy, areEquivalent] at tokens
    apply other
    rw [← symbol_of_token? oa hx, ← symbol_of_token? ob hy, spellsX, spellsY]
    exact kind_eq_of_equivalent tokens

section Samples

/-- `x - y`, with the operator as text. -/
def difference : Tree :=
  ⟨"binary_operator", "-", none, none, [.leaf "identifier" "x", .leaf "identifier" "y"]⟩

/-- `x / y`, with the operator as text. -/
def quotient : Tree :=
  ⟨"binary_operator", "/", none, none, [.leaf "identifier" "x", .leaf "identifier" "y"]⟩

/-- `x + y` or `x * y`, with the operator as a token of a kind for all operators. -/
def tokenOperation (symbol : String) : Tree :=
  .branch "binary_operator"
    [.leaf "identifier" "x", .leaf "operator" symbol, .leaf "identifier" "y"]

theorem other_operator_passes_difference :
    difference.kind = "binary_operator" ∧ quotient.kind = "binary_operator" ∧
    operation? difference = some (.leaf "identifier" "x", .leaf "identifier" "y", "-") ∧
    operation? quotient = some (.leaf "identifier" "x", .leaf "identifier" "y", "/") ∧
    equivalent false difference quotient = true := by
  have od : operation? difference = some (.leaf "identifier" "x", .leaf "identifier" "y", "-") :=
    rfl
  have oq : operation? quotient = some (.leaf "identifier" "x", .leaf "identifier" "y", "/") :=
    rfl
  refine ⟨rfl, rfl, od, oq, ?_⟩
  refine ((other_operator_passes_iff rfl rfl od oq).1 (by decide)).1.2 ⟨?_, ?_, rfl⟩
  · exact (equivalent_bare_iff rfl rfl).2 ⟨rfl, fun _ => rfl⟩
  · exact (equivalent_bare_iff rfl rfl).2 ⟨rfl, fun _ => rfl⟩

/-- Not all equivalent operations have the same operator, in either form. -/
theorem equivalent_operations_differ :
    (equivalent false difference quotient = true ∧
      (operation? difference).map (·.2.2) = some "-" ∧
      (operation? quotient).map (·.2.2) = some "/") ∧
    (equivalent false (tokenOperation "+") (tokenOperation "*") = true ∧
      (operation? (tokenOperation "+")).map (·.2.2) = some "+" ∧
      (operation? (tokenOperation "*")).map (·.2.2) = some "*") := by
  decide +kernel

end Samples

end Overlooking
end Equivalence
end Likeness
