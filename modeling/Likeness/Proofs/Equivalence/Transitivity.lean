import Likeness.Proofs.Equivalence.Congruence
import Likeness.Proofs.Tree.Walk

/-!
# How far equivalence is transitive

Two comparisons in a row come to one, node by node, unless they follow different rules: if the
first one exchanges the operands of an operation and the second one takes its operator for
another, nothing tells whether the operands still correspond.  Three operations at which this
happens clash.

**Main statements.**
* `equivalent_trans_of_step`: what holds of the children holds of the node, unless it clashes.
* `equivalent_or_clash`: two comparisons come to one, unless three operations clash; and wherever
  an operation with a commutative operator passes for one with another operator, there are three
  that do.
-/

namespace Likeness
namespace Equivalence

variable {ignoreNames : Bool} {a b c : Tree}

section Operators

/-- The symbol of an operation in either form. -/
def operator? (node : Tree) : Option String :=
  (operation? node).map (fun operation => operation.2.2)

theorem operator?_eq_some_iff {symbol : String} :
    operator? a = some symbol ↔ ∃ left right, operation? a = some (left, right, symbol) := by
  rw [operator?, Option.map_eq_some_iff]
  constructor
  · rintro ⟨⟨left, right, _⟩, h, rfl⟩
    exact ⟨left, right, h⟩
  · rintro ⟨left, right, h⟩
    exact ⟨(left, right, symbol), h, rfl⟩

theorem operator?_of_commutative? {left right : Tree} {symbol : String}
    (h : commutative? a = some (left, right, symbol)) : operator? a = some symbol :=
  operator?_eq_some_iff.2 ⟨left, right, (commutative?_eq_some_iff.1 h).1⟩

/-- Operations with different operators are compared child by child. -/
theorem equivalent_eq_of_operator?_ne (ka : a.kind = "binary_operator")
    (kb : b.kind = "binary_operator") (other : operator? a ≠ operator? b) :
    equivalent ignoreNames a b = allEquivalent ignoreNames a.children b.children := by
  refine equivalent_operation_eq_of_ne ka kb ?_
  rintro ⟨leftA, rightA, symbol⟩ ca ⟨leftB, rightB, _⟩ cb rfl
  exact other ((operator?_of_commutative? ca).trans (operator?_of_commutative? cb).symm)

end Operators

section Steps

/-- Two comparisons in a row come to one. -/
def Chains (ignoreNames : Bool) (x y z : Tree) : Prop :=
  equivalent ignoreNames x y = true → equivalent ignoreNames y z = true →
    equivalent ignoreNames x z = true

/-- The second operation is equivalent to the first and to the third, but these are not to each
other.  It has a commutative operator, and just one of its neighbours has the same. -/
structure Clash (ignoreNames : Bool) (x y z : Tree) : Prop where
  before : equivalent ignoreNames x y = true
  behind : equivalent ignoreNames y z = true
  apart : equivalent ignoreNames x z = false
  operation : y.kind = "binary_operator"
  operator : ∃ symbol ∈ commutativeOperators, operator? y = some symbol ∧
    ¬(operator? x = some symbol ↔ operator? z = some symbol)

theorem allEquivalent_trans {as bs cs : List Tree}
    (step : ∀ x ∈ as, ∀ y ∈ bs, ∀ z ∈ cs, Chains ignoreNames x y z)
    (ab : allEquivalent ignoreNames as bs = true) (bc : allEquivalent ignoreNames bs cs = true) :
    allEquivalent ignoreNames as cs = true := by
  rw [allEquivalent_iff] at ab bc ⊢
  induction ab generalizing cs with
  | nil => exact bc
  | cons first rest ih =>
      cases bc with
      | cons second others =>
          refine .cons (step _ (by simp) _ (by simp) _ (by simp) first second) (ih ?_ others)
          intro x hx y hy z hz
          exact step x (.tail _ hx) y (.tail _ hy) z (.tail _ hz)

theorem areEquivalent_trans {a? b? c? : Option Tree}
    (step : ∀ x ∈ a?, ∀ y ∈ b?, ∀ z ∈ c?, Chains ignoreNames x y z)
    (ab : areEquivalent ignoreNames a? b? = true) (bc : areEquivalent ignoreNames b? c? = true) :
    areEquivalent ignoreNames a? c? = true := by
  rcases a? with _ | x <;> rcases b? with _ | y <;> rcases c? with _ | z <;>
    simp only [areEquivalent, reduceCtorEq] at ab bc ⊢
  exact step x rfl y rfl z rfl ab bc

/-- Operations with one commutative operator come straight or crosswise from the first to the
second and from the second to the third. -/
theorem equivalent_trans_of_operands {leftA rightA leftB rightB leftC rightC : Tree}
    {symbol : String} (ka : a.kind = "binary_operator") (kb : b.kind = "binary_operator")
    (kc : c.kind = "binary_operator") (ca : commutative? a = some (leftA, rightA, symbol))
    (cb : commutative? b = some (leftB, rightB, symbol))
    (cc : commutative? c = some (leftC, rightC, symbol))
    (step : ∀ x ∈ a.children, ∀ y ∈ b.children, ∀ z ∈ c.children, Chains ignoreNames x y z) :
    Chains ignoreNames a b c := by
  obtain ⟨la, ra⟩ := mem_of_commutative? ca
  obtain ⟨lb, rb⟩ := mem_of_commutative? cb
  obtain ⟨lc, rc⟩ := mem_of_commutative? cc
  intro ab bc
  rw [equivalent_operation_eq ka kb ca cb] at ab
  rw [equivalent_operation_eq kb kc cb cc] at bc
  rw [equivalent_operation_eq ka kc ca cc]
  simp only [Bool.or_eq_true, Bool.and_eq_true] at ab bc ⊢
  rcases ab with ⟨left, right⟩ | ⟨left, right⟩ <;> rcases bc with ⟨left', right'⟩ | ⟨left', right'⟩
  · exact Or.inl ⟨step _ la _ lb _ lc left left', step _ ra _ rb _ rc right right'⟩
  · exact Or.inr ⟨step _ la _ lb _ rc left left', step _ ra _ rb _ lc right right'⟩
  · exact Or.inr ⟨step _ la _ rb _ rc left right', step _ ra _ lb _ lc right left'⟩
  · exact Or.inl ⟨step _ la _ rb _ lc left right', step _ ra _ lb _ rc right left'⟩

theorem equivalent_trans_of_operation (ka : a.kind = "binary_operator")
    (kb : b.kind = "binary_operator") (kc : c.kind = "binary_operator")
    (step : ∀ x ∈ a.children, ∀ y ∈ b.children, ∀ z ∈ c.children, Chains ignoreNames x y z)
    (free : ¬Clash ignoreNames a b c) : Chains ignoreNames a b c := by
  intro ab bc
  by_contra apart
  -- the second operation tells which rule each of the two comparisons follows
  have bothByChildren (ab : allEquivalent ignoreNames a.children b.children = true)
      (bc : allEquivalent ignoreNames b.children c.children = true) : False :=
    apart (equivalent_of_children (ka.trans kc.symm)
      (by simp [TextCounts, literalKinds, ka]) (allEquivalent_trans step ab bc))
  cases cb : commutative? b with
  | none =>
      rw [equivalent_operation_eq_of_ne ka kb (by simp [cb])] at ab
      rw [equivalent_operation_eq_of_ne kb kc (by simp [cb])] at bc
      exact bothByChildren ab bc
  | some operation =>
      obtain ⟨leftB, rightB, symbol⟩ := operation
      have ob := operator?_of_commutative? cb
      have may := (commutative?_eq_some_iff.1 cb).2
      by_cases oa : operator? a = some symbol
      · by_cases oc : operator? c = some symbol
        · obtain ⟨leftA, rightA, oa⟩ := operator?_eq_some_iff.1 oa
          obtain ⟨leftC, rightC, oc⟩ := operator?_eq_some_iff.1 oc
          exact apart (equivalent_trans_of_operands ka kb kc (commutative?_eq_some_iff.2 ⟨oa, may⟩)
            cb (commutative?_eq_some_iff.2 ⟨oc, may⟩) step ab bc)
        · exact free ⟨ab, bc, by simpa using apart, kb, symbol, may, ob, by simp [oa, oc]⟩
      · by_cases oc : operator? c = some symbol
        · exact free ⟨ab, bc, by simpa using apart, kb, symbol, may, ob, by simp [oa, oc]⟩
        · rw [equivalent_eq_of_operator?_ne ka kb (by rwa [ob])] at ab
          rw [equivalent_eq_of_operator?_ne kb kc (by rw [ob]; exact Ne.symm oc)] at bc
          exact bothByChildren ab bc

/-- If two comparisons come to one for the children, they do for the nodes, unless these clash. -/
theorem equivalent_trans_of_step
    (step : ∀ x ∈ a.children, ∀ y ∈ b.children, ∀ z ∈ c.children, Chains ignoreNames x y z)
    (free : ¬Clash ignoreNames a b c) : Chains ignoreNames a b c := by
  intro ab bc
  have kab := kind_eq_of_equivalent ab
  have kbc := kind_eq_of_equivalent bc
  rcases kind_cases b.kind with name | literal | operation | function | statement | plain
  · rw [equivalent_name_eq (kab.trans name) name] at ab
    rw [equivalent_name_eq name (kbc ▸ name)] at bc
    rw [equivalent_name_eq (kab.trans name) (kbc ▸ name)]
    cases ignoreNames with
    | true => rfl
    | false =>
        simp only [Bool.false_or, beq_iff_eq] at ab bc ⊢
        exact ab.trans bc
  · rw [equivalent_literal_eq literal kab rfl, beq_iff_eq] at ab
    rw [equivalent_literal_eq literal rfl kbc.symm, beq_iff_eq] at bc
    rw [equivalent_literal_eq literal kab kbc.symm, beq_iff_eq, ab, bc]
  · exact equivalent_trans_of_operation (kab.trans operation) operation (kbc ▸ operation) step free
      ab bc
  · rw [equivalent_function_eq (kab.trans function) function] at ab
    rw [equivalent_function_eq function (kbc ▸ function)] at bc
    rw [equivalent_function_eq (kab.trans function) (kbc ▸ function)]
    simp only [Bool.and_eq_true, Bool.or_eq_true, beq_iff_eq] at ab bc ⊢
    have selected (kind : String) : ∀ x ∈ a.childOfKind? kind, ∀ y ∈ b.childOfKind? kind,
        ∀ z ∈ c.childOfKind? kind, Chains ignoreNames x y z := by
      intro x hx y hy z hz
      exact step x (List.mem_of_find?_eq_some hx) y (List.mem_of_find?_eq_some hy) z
        (List.mem_of_find?_eq_some hz)
    refine ⟨⟨?_, areEquivalent_trans (selected _) ab.1.2 bc.1.2⟩,
      areEquivalent_trans (selected _) ab.2 bc.2⟩
    rcases ab.1.1 with ignored | names
    · exact Or.inl ignored
    · rw [names]
      exact bc.1.1
  · rw [equivalent_return_eq (kab.trans statement) statement] at ab
    rw [equivalent_return_eq statement (kbc ▸ statement)] at bc
    rw [equivalent_return_eq (kab.trans statement) (kbc ▸ statement)]
    refine areEquivalent_trans ?_ ab bc
    intro x hx y hy z hz
    exact step x (List.mem_of_find?_eq_some hx) y (List.mem_of_find?_eq_some hy) z
      (List.mem_of_find?_eq_some hz)
  · rw [equivalent_plain_eq plain kab rfl] at ab
    rw [equivalent_plain_eq plain rfl kbc.symm] at bc
    rw [equivalent_plain_eq plain kab kbc.symm]
    exact allEquivalent_trans step ab bc

end Steps

section Runs

/-- No three operations in the trees clash. -/
def ClashFree (ignoreNames : Bool) (a b c : Tree) : Prop :=
  ∀ x ∈ a.preorder, ∀ y ∈ b.preorder, ∀ z ∈ c.preorder, ¬Clash ignoreNames x y z

theorem ClashFree.of_children (free : ClashFree ignoreNames a b c) {x y z : Tree}
    (hx : x ∈ a.children) (hy : y ∈ b.children) (hz : z ∈ c.children) :
    ClashFree ignoreNames x y z :=
  fun _ hx' _ hy' _ hz' =>
    free _ (Tree.mem_preorder_of_mem hx hx') _ (Tree.mem_preorder_of_mem hy hy') _
      (Tree.mem_preorder_of_mem hz hz')

/-- By induction on the size, the step lemma at each node. -/
theorem equivalent_trans_of_free (a b c : Tree) (free : ClashFree ignoreNames a b c) :
    Chains ignoreNames a b c := by
  refine equivalent_trans_of_step ?_
    (free a a.mem_preorder_self b b.mem_preorder_self c c.mem_preorder_self)
  intro x hx y hy z hz
  exact equivalent_trans_of_free x y z (free.of_children hx hy hz)
termination_by a.size
decreasing_by exact Tree.size_lt_of_mem hx

end Runs

section Mistakes

/-- The same operation in the other form. -/
def otherForm (node : Tree) : Tree :=
  match node.children with
  | [left, token, right] =>
      ⟨"binary_operator", operatorSymbol token, none, none, [left, right]⟩
  | [left, right] => .branch "binary_operator" [left, .leaf (trim node.text) "", right]
  | _ => node

theorem trim_of_mem_commutativeOperators {symbol : String} (may : symbol ∈ commutativeOperators) :
    trim symbol = symbol := by
  simp only [commutativeOperators, List.mem_cons, List.not_mem_nil, or_false] at may
  rcases may with rfl | rfl <;> decide +kernel

/-- The other form has the same operands and the same operator, but not as many children. -/
theorem otherForm_spec {left right : Tree} {symbol : String}
    (operation : operation? a = some (left, right, symbol))
    (may : symbol ∈ commutativeOperators) :
    (otherForm a).kind = "binary_operator" ∧
      operation? (otherForm a) = some (left, right, symbol) ∧
      (otherForm a).children.length ≠ a.children.length := by
  rcases operation?_eq_some_iff.1 operation with ⟨token, children, rfl⟩ | ⟨children, rfl⟩
  · simp [otherForm, children, operation?, trim_of_mem_commutativeOperators may]
  · have bare : (trim "").isEmpty = true := by decide +kernel
    simp [otherForm, children, operation?, Tree.branch, operatorSymbol, Tree.leaf, bare]

theorem exists_otherForm (ignoreNames : Bool) {symbol : String}
    (operation : a.kind = "binary_operator") (may : symbol ∈ commutativeOperators)
    (oa : operator? a = some symbol) :
    ∃ x, x.kind = "binary_operator" ∧ operator? x = some symbol ∧
      x.children.length ≠ a.children.length ∧
      equivalent ignoreNames a x = true ∧ equivalent ignoreNames x a = true := by
  obtain ⟨left, right, operands⟩ := operator?_eq_some_iff.1 oa
  obtain ⟨kind, operands', length⟩ := otherForm_spec operands may
  exact ⟨otherForm a, kind, operator?_eq_some_iff.2 ⟨left, right, operands'⟩, length,
    equivalent_of_straight operation kind operands operands' may (equivalent_self _)
      (equivalent_self _),
    equivalent_of_straight kind operation operands' operands may (equivalent_self _)
      (equivalent_self _)⟩

/-- Operations with different operators that are equivalent have as many children. -/
theorem length_eq_of_operator?_ne (ka : a.kind = "binary_operator")
    (other : operator? a ≠ operator? b) (same : equivalent ignoreNames a b = true) :
    a.children.length = b.children.length := by
  rw [equivalent_eq_of_operator?_ne ka (kind_eq_of_equivalent same ▸ ka) other] at same
  exact (allEquivalent_iff.1 same).length_eq

/-- An operation that passes for one with another operator does so in one of its forms only. -/
theorem exists_clash_before {symbol : String} (operation : a.kind = "binary_operator")
    (may : symbol ∈ commutativeOperators) (oa : operator? a = some symbol)
    (ob : operator? b ≠ some symbol) (same : equivalent ignoreNames a b = true) :
    ∃ x, Clash ignoreNames x a b := by
  obtain ⟨x, kind, ox, length, _, before⟩ :=
    exists_otherForm ignoreNames operation may oa
  refine ⟨x, before, same, ?_, operation, symbol, may, oa, by simp [ox, ob]⟩
  by_contra passes
  rw [Bool.not_eq_false] at passes
  have lengthX := length_eq_of_operator?_ne kind (ox ▸ ob.symm) passes
  have lengthA := length_eq_of_operator?_ne operation (oa ▸ ob.symm) same
  exact length (lengthX.trans lengthA.symm)

theorem exists_clash_behind {symbol : String} (operation : a.kind = "binary_operator")
    (may : symbol ∈ commutativeOperators) (oa : operator? a = some symbol)
    (ob : operator? b ≠ some symbol) (same : equivalent ignoreNames b a = true) :
    ∃ x, Clash ignoreNames b a x := by
  obtain ⟨x, kind, ox, length, behind, _⟩ :=
    exists_otherForm ignoreNames operation may oa
  have kb := (kind_eq_of_equivalent same).trans operation
  refine ⟨x, same, behind, ?_, operation, symbol, may, oa, by simp [ox, ob]⟩
  by_contra passes
  rw [Bool.not_eq_false] at passes
  have lengthX := length_eq_of_operator?_ne kb (ox ▸ ob) passes
  have lengthA := length_eq_of_operator?_ne kb (oa ▸ ob) same
  exact length (lengthX.symm.trans lengthA)

end Mistakes

/-- If two comparisons do not come to one, three operations clash, of which the middle one passes
for one with another operator.  Wherever an operation with a commutative operator does that, there
are three that clash. -/
theorem equivalent_or_clash :
    (equivalent ignoreNames a b = true → equivalent ignoreNames b c = true →
      equivalent ignoreNames a c = true ∨
        ∃ x ∈ a.preorder, ∃ y ∈ b.preorder, ∃ z ∈ c.preorder, Clash ignoreNames x y z) ∧
    ∀ y z symbol, y.kind = "binary_operator" → symbol ∈ commutativeOperators →
      operator? y = some symbol → operator? z ≠ some symbol →
        (equivalent ignoreNames y z = true → ∃ x, Clash ignoreNames x y z) ∧
        (equivalent ignoreNames z y = true → ∃ x, Clash ignoreNames z y x) := by
  constructor
  · intro ab bc
    by_cases free : ClashFree ignoreNames a b c
    · exact Or.inl (equivalent_trans_of_free a b c free ab bc)
    · simp only [ClashFree, not_forall, not_not] at free
      obtain ⟨x, hx, y, hy, z, hz, clash⟩ := free
      exact Or.inr ⟨x, hx, y, hy, z, hz, clash⟩
  · intro y z symbol operation may oy oz
    exact ⟨exists_clash_before operation may oy oz, exists_clash_behind operation may oy oz⟩

section Samples

/-- A calculation with two numbers, with the operator as text. -/
def calculation (first symbol second : String) : Tree :=
  ⟨"binary_operator", symbol, none, none, [.leaf "integer" first, .leaf "integer" second]⟩

theorem equivalent_or_clash_calculation :
    equivalent false (calculation "1" "+" "2") (calculation "2" "+" "1") = true ∧
    equivalent false (calculation "2" "+" "1") (calculation "2" "-" "1") = true ∧
    equivalent false (calculation "2" "-" "1") (calculation "2" "+" "1") = true ∧
    (∃ x ∈ (calculation "1" "+" "2").preorder, ∃ y ∈ (calculation "2" "+" "1").preorder,
      ∃ z ∈ (calculation "2" "-" "1").preorder, Clash false x y z) ∧
    (∃ x, Clash false x (calculation "2" "+" "1") (calculation "2" "-" "1")) ∧
    ∃ x, Clash false (calculation "2" "-" "1") (calculation "2" "+" "1") x := by
  have before : equivalent false (calculation "1" "+" "2") (calculation "2" "+" "1") = true := by
    decide +kernel
  have behind : equivalent false (calculation "2" "+" "1") (calculation "2" "-" "1") = true := by
    decide +kernel
  have back : equivalent false (calculation "2" "-" "1") (calculation "2" "+" "1") = true := by
    decide +kernel
  have apart : ¬equivalent false (calculation "1" "+" "2") (calculation "2" "-" "1") = true := by
    decide +kernel
  have plus : operator? (calculation "2" "+" "1") = some "+" := by decide +kernel
  have minus : operator? (calculation "2" "-" "1") ≠ some "+" := by decide +kernel
  obtain ⟨chains, others⟩ := @equivalent_or_clash false (calculation "1" "+" "2")
    (calculation "2" "+" "1") (calculation "2" "-" "1")
  obtain ⟨inFront, afterwards⟩ := others _ _ "+" rfl (by decide) plus minus
  exact ⟨before, behind, back, (chains before behind).resolve_left apart, inFront behind,
    afterwards back⟩

/-- Equivalence is not transitive, whether names are ignored or not. -/
theorem equivalent_not_transitive :
    (areEquivalent false (some (calculation "1" "+" "2")) (some (calculation "2" "+" "1")) = true ∧
      areEquivalent false (some (calculation "2" "+" "1")) (some (calculation "2" "-" "1")) = true ∧
      areEquivalent false (some (calculation "1" "+" "2")) (some (calculation "2" "-" "1")) =
        false) ∧
    (areEquivalent true (some (calculation "1" "+" "2")) (some (calculation "2" "+" "1")) = true ∧
      areEquivalent true (some (calculation "2" "+" "1")) (some (calculation "2" "-" "1")) = true ∧
      areEquivalent true (some (calculation "1" "+" "2")) (some (calculation "2" "-" "1")) =
        false) := by
  decide +kernel

end Samples

end Equivalence
end Likeness
