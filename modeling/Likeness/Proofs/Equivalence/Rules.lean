import Likeness.Equivalence
import Mathlib.Data.List.Forall2

/-!
# The rules of equivalence

What it takes for two nodes of the same kind to be equivalent: one rule for each way in which
nodes are compared.  Everything else about equivalence is derived from these rules.
-/

namespace Likeness
namespace Equivalence

variable {ignoreNames : Bool} {a b : Tree}

/-- The kinds of nodes whose texts are compared. -/
def literalKinds : List String :=
  ["string", "integer", "float", "comment"]

theorem kind_eq_of_equivalent (h : equivalent ignoreNames a b = true) : a.kind = b.kind := by
  by_contra other
  rw [equivalent, if_pos (by simpa using other)] at h
  cases h

theorem equivalent_name_eq (ka : a.kind = "identifier") (kb : b.kind = "identifier") :
    equivalent ignoreNames a b = (ignoreNames || a.text == b.text) := by
  rw [equivalent, ka, kb]
  simp

theorem equivalent_literal_eq {kind : String} (literal : kind ∈ literalKinds) (ka : a.kind = kind)
    (kb : b.kind = kind) : equivalent ignoreNames a b = (a.text == b.text) := by
  rw [equivalent, ka, kb]
  simp only [literalKinds, List.mem_cons, List.not_mem_nil, or_false] at literal
  rcases literal with rfl | rfl | rfl | rfl <;> simp

theorem allEquivalent_iff {as bs : List Tree} :
    allEquivalent ignoreNames as bs = true ↔
      List.Forall₂ (fun x y => equivalent ignoreNames x y = true) as bs := by
  induction as generalizing bs with
  | nil => cases bs <;> simp [allEquivalent]
  | cons x as ih =>
      cases bs with
      | nil => simp [allEquivalent]
      | cons y bs => simp [allEquivalent, ih]

/-- Two operations with the same commutative operator are compared operand by operand. -/
theorem equivalent_operation_eq {leftA rightA leftB rightB : Tree} {symbol : String}
    (ka : a.kind = "binary_operator") (kb : b.kind = "binary_operator")
    (ca : commutative? a = some (leftA, rightA, symbol))
    (cb : commutative? b = some (leftB, rightB, symbol)) :
    equivalent ignoreNames a b =
      ((equivalent ignoreNames leftA leftB && equivalent ignoreNames rightA rightB) ||
        (equivalent ignoreNames leftA rightB && equivalent ignoreNames rightA leftB)) := by
  rw [equivalent, ka, kb]
  cases there : commutative? a with
  | none =>
      rw [there] at ca
      cases ca
  | some operation =>
      rw [there, Option.some.injEq] at ca
      simp [ca, cb]

/-- All other operations are compared child by child. -/
theorem equivalent_operation_eq_of_ne (ka : a.kind = "binary_operator")
    (kb : b.kind = "binary_operator")
    (apart : ∀ operationA ∈ commutative? a, ∀ operationB ∈ commutative? b,
      operationA.2.2 ≠ operationB.2.2) :
    equivalent ignoreNames a b = allEquivalent ignoreNames a.children b.children := by
  rw [equivalent, ka, kb]
  cases ca : commutative? a with
  | none => simp
  | some operationA =>
      cases cb : commutative? b with
      | none => simp
      | some operationB =>
          have other := apart operationA ca operationB cb
          simp [other]

theorem equivalent_function_eq (ka : a.kind = "function_definition")
    (kb : b.kind = "function_definition") :
    equivalent ignoreNames a b =
      ((ignoreNames || name? a == name? b)
        && areEquivalent ignoreNames (a.childOfKind? "parameters") (b.childOfKind? "parameters")
        && areEquivalent ignoreNames (a.childOfKind? "block") (b.childOfKind? "block")) := by
  rw [equivalent, ka, kb]
  cases pa : a.childOfKind? "parameters" <;> cases pb : b.childOfKind? "parameters" <;>
    cases ba : a.childOfKind? "block" <;> cases bb : b.childOfKind? "block" <;>
      simp [areEquivalent]

theorem equivalent_return_eq (ka : a.kind = "return_statement")
    (kb : b.kind = "return_statement") :
    equivalent ignoreNames a b = areEquivalent ignoreNames (returned? a) (returned? b) := by
  rw [equivalent, ka, kb]
  cases ra : returned? a <;> cases rb : returned? b <;> simp [areEquivalent]

/-- The kinds of nodes that have a rule of their own. -/
def specialKinds : List String :=
  "identifier" :: "binary_operator" :: "function_definition" :: "return_statement" :: literalKinds

/-- All other nodes are compared child by child. -/
theorem equivalent_plain_eq {kind : String} (plain : kind ∉ specialKinds) (ka : a.kind = kind)
    (kb : b.kind = kind) :
    equivalent ignoreNames a b = allEquivalent ignoreNames a.children b.children := by
  rw [equivalent, ka, kb]
  simp only [specialKinds, literalKinds, List.mem_cons, List.not_mem_nil, or_false, not_or] at plain
  simp [plain]

end Equivalence
end Likeness
