import Likeness.Proofs.Equivalence.Congruence

/-!
# Variants of a tree

A variant of a tree is written with the liberties that equivalence grants: at each operation with
a commutative operator, wherever it stands, the operands may have changed places, and if names
are ignored, identifiers may have any other texts.  Only the token between operands that have
changed places keeps its text, for it is the operator.

**Main statements.**
* `Variant.equivalent`: a variant is equivalent to the tree, by induction on how it is written.
* `variant_areEquivalent`: the tree and its variant are equivalent both ways.
-/

namespace Likeness
namespace Equivalence

section Liberties

mutual

/-- The second tree is written with liberties that the first one allows. -/
inductive Variant (ignoreNames : Bool) : Tree → Tree → Prop
  | kept {kind text : String} {start? stop? : Option Position} {children children' : List Tree} :
      Variants ignoreNames children children' →
      Variant ignoreNames ⟨kind, text, start?, stop?, children⟩
        ⟨kind, text, start?, stop?, children'⟩
  | renamed {text text' : String} {start? stop? : Option Position}
      {children children' : List Tree} :
      ignoreNames = true →
      Variants ignoreNames children children' →
      Variant ignoreNames ⟨"identifier", text, start?, stop?, children⟩
        ⟨"identifier", text', start?, stop?, children'⟩
  | exchanged {text : String} {start? stop? : Option Position}
      {left token right left' token' right' : Tree} :
      operatorSymbol token ∈ commutativeOperators →
      Variant ignoreNames left left' →
      Variant ignoreNames token token' →
      token'.text = token.text →
      Variant ignoreNames right right' →
      Variant ignoreNames ⟨"binary_operator", text, start?, stop?, [left, token, right]⟩
        ⟨"binary_operator", text, start?, stop?, [right', token', left']⟩
  | exchangedCompact {text : String} {start? stop? : Option Position}
      {left right left' right' : Tree} :
      trim text ∈ commutativeOperators →
      Variant ignoreNames left left' →
      Variant ignoreNames right right' →
      Variant ignoreNames ⟨"binary_operator", text, start?, stop?, [left, right]⟩
        ⟨"binary_operator", text, start?, stop?, [right', left']⟩

/-- The trees of the second forest are variants of those of the first. -/
inductive Variants (ignoreNames : Bool) : List Tree → List Tree → Prop
  | nil : Variants ignoreNames [] []
  | cons {a b : Tree} {as bs : List Tree} :
      Variant ignoreNames a b →
      Variants ignoreNames as bs →
      Variants ignoreNames (a :: as) (b :: bs)

end

end Liberties

variable {ignoreNames : Bool} {a b : Tree}

theorem Variant.kind_eq (h : Variant ignoreNames a b) : a.kind = b.kind := by
  cases h <;> rfl

/-- A token with the same text is the same operator. -/
theorem Variant.operatorSymbol_eq (h : Variant ignoreNames a b) (text : b.text = a.text) :
    operatorSymbol b = operatorSymbol a :=
  operatorSymbol_eq_of_text h.kind_eq.symm text

mutual

/-- Operands that have changed places may change them again. -/
theorem Variant.symm {a b : Tree} (h : Variant ignoreNames a b) : Variant ignoreNames b a := by
  cases h with
  | kept below => exact .kept below.symm
  | renamed ignored below => exact .renamed ignored below.symm
  | exchanged may left token text right =>
      rw [← token.operatorSymbol_eq text] at may
      exact .exchanged may right.symm token.symm text.symm left.symm
  | exchangedCompact may left right => exact .exchangedCompact may right.symm left.symm

theorem Variants.symm {as bs : List Tree} (h : Variants ignoreNames as bs) :
    Variants ignoreNames bs as := by
  cases h with
  | nil => exact .nil
  | cons first rest => exact .cons first.symm rest.symm

end

mutual

theorem Variant.equivalent {a b : Tree} (h : Variant ignoreNames a b) :
    equivalent ignoreNames a b = true := by
  cases h with
  | kept below => exact equivalent_of_children rfl (fun _ => rfl) below.allEquivalent
  | renamed ignored below =>
      refine equivalent_of_children rfl ?_ below.allEquivalent
      rintro (literal | ⟨_, counts⟩)
      · simp [literalKinds] at literal
      · rw [ignored] at counts
        cases counts
  | exchanged may left token text right =>
      refine equivalent_of_crossed rfl rfl rfl ?_ may left.equivalent right.equivalent
      rw [← token.operatorSymbol_eq text]
      rfl
  | exchangedCompact may left right =>
      exact equivalent_of_crossed rfl rfl rfl rfl may left.equivalent right.equivalent

theorem Variants.allEquivalent {as bs : List Tree} (h : Variants ignoreNames as bs) :
    allEquivalent ignoreNames as bs = true := by
  cases h with
  | nil => rw [Equivalence.allEquivalent]
  | cons first rest =>
      rw [Equivalence.allEquivalent, first.equivalent, rest.allEquivalent]
      rfl

end

/-- A tree and its variant are equivalent, in either order. -/
theorem variant_areEquivalent (h : Variant ignoreNames a b) :
    areEquivalent ignoreNames (some a) (some b) = true ∧
      areEquivalent ignoreNames (some b) (some a) = true :=
  ⟨h.equivalent, h.symm.equivalent⟩

section Samples

/-- A function of two parameters that returns a value. -/
def functionOf (name first second : String) (value : Tree) : Tree :=
  .branch "function_definition"
    [.leaf "identifier" name,
      .branch "parameters" [.leaf "identifier" first, .leaf "identifier" second],
      .branch "block" [.branch "return_statement" [.leaf "return" "return", value]]]

/-- A sum with the operator as text. -/
def compactSum (first second : String) : Tree :=
  ⟨"binary_operator", " + ", none, none, [.leaf "identifier" first, .leaf "identifier" second]⟩

/-- A product with the operator as a token. -/
def tokenProduct (left right : Tree) : Tree :=
  .branch "binary_operator" [left, .leaf "*" "", right]

/-- A function that returns `(a + b) * 2`. -/
def doubled : Tree :=
  functionOf "twice" "a" "b" (tokenProduct (compactSum "a" "b") (.leaf "integer" "2"))

/-- A function that returns `2 * (y + x)`. -/
def doubledAnew : Tree :=
  functionOf "double" "x" "y" (tokenProduct (.leaf "integer" "2") (compactSum "y" "x"))

theorem variant_doubled : Variant true doubled doubledAnew := by
  have name (old new : String) : Variant true (.leaf "identifier" old) (.leaf "identifier" new) :=
    .renamed rfl .nil
  have inner : Variant true (compactSum "a" "b") (compactSum "y" "x") :=
    .exchangedCompact (by decide +kernel) (name "a" "x") (name "b" "y")
  have outer : Variant true (tokenProduct (compactSum "a" "b") (.leaf "integer" "2"))
      (tokenProduct (.leaf "integer" "2") (compactSum "y" "x")) :=
    .exchanged (by decide +kernel) inner (.kept .nil) rfl (.kept .nil)
  refine .kept (.cons (name _ _) (.cons (.kept ?_) (.cons (.kept (.cons (.kept ?_) .nil)) .nil)))
  · exact .cons (name _ _) (.cons (name _ _) .nil)
  · exact .cons (.kept .nil) (.cons outer .nil)

theorem variant_areEquivalent_doubled :
    Variant true doubled doubledAnew ∧
      areEquivalent true (some doubled) (some doubledAnew) = true ∧
      areEquivalent true (some doubledAnew) (some doubled) = true :=
  ⟨variant_doubled, variant_areEquivalent variant_doubled⟩

end Samples

end Equivalence
end Likeness
