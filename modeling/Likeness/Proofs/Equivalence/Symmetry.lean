import Likeness.Proofs.Equivalence.Congruence

/-!
# Equivalence does not depend on the order of the trees

The rule by which two nodes are compared is chosen by the first one, but both have to have its
kind, so either of them chooses the same rule.  The rules select children by kind on both sides
alike.  Where operands may be exchanged, the straight pairing of the second operation with the
first is the straight pairing of the first with the second, and the two halves of the crossed
pairing change places.

**Main statements.**
* `equivalent_comm_of_step`: two nodes may be exchanged if their children may.
* `areEquivalent_comm`: equivalence is symmetric, whether names are ignored or not.
-/

namespace Likeness
namespace Equivalence

variable {ignoreNames : Bool} {a b : Tree}

/-- Two trees may be exchanged in a comparison. -/
def Exchanges (ignoreNames : Bool) (x y : Tree) : Prop :=
  equivalent ignoreNames x y = equivalent ignoreNames y x

theorem allEquivalent_comm_of_step {as bs : List Tree}
    (step : ∀ x ∈ as, ∀ y ∈ bs, Exchanges ignoreNames x y) :
    allEquivalent ignoreNames as bs = allEquivalent ignoreNames bs as := by
  induction as generalizing bs with
  | nil => cases bs <;> simp [allEquivalent]
  | cons x as ih =>
      cases bs with
      | nil => simp [allEquivalent]
      | cons y bs =>
          have first : equivalent ignoreNames x y = equivalent ignoreNames y x :=
            step x (by simp) y (by simp)
          have rest : allEquivalent ignoreNames as bs = allEquivalent ignoreNames bs as :=
            ih (fun x hx y hy => step x (.tail _ hx) y (.tail _ hy))
          rw [allEquivalent, allEquivalent, first, rest]

theorem areEquivalent_comm_of_step {a? b? : Option Tree}
    (step : ∀ x ∈ a?, ∀ y ∈ b?, Exchanges ignoreNames x y) :
    areEquivalent ignoreNames a? b? = areEquivalent ignoreNames b? a? := by
  rcases a? with _ | x <;> rcases b? with _ | y
  · rfl
  · rfl
  · rfl
  · exact step x rfl y rfl

section Steps

variable (step : ∀ x ∈ a.children, ∀ y ∈ b.children, Exchanges ignoreNames x y)
include step

theorem equivalent_comm_of_operation (ka : a.kind = "binary_operator")
    (kb : b.kind = "binary_operator") :
    equivalent ignoreNames a b = equivalent ignoreNames b a := by
  by_cases apart : ∀ operationA ∈ commutative? a, ∀ operationB ∈ commutative? b,
      operationA.2.2 ≠ operationB.2.2
  · rw [equivalent_operation_eq_of_ne ka kb apart,
      equivalent_operation_eq_of_ne kb ka (fun x hx y hy => (apart y hy x hx).symm)]
    exact allEquivalent_comm_of_step step
  · push Not at apart
    obtain ⟨⟨leftA, rightA, symbol⟩, ca, ⟨leftB, rightB, _⟩, cb, rfl⟩ := apart
    obtain ⟨memLeftA, memRightA⟩ := mem_of_commutative? ca
    obtain ⟨memLeftB, memRightB⟩ := mem_of_commutative? cb
    have left : equivalent ignoreNames leftA leftB = equivalent ignoreNames leftB leftA :=
      step leftA memLeftA leftB memLeftB
    have right : equivalent ignoreNames rightA rightB = equivalent ignoreNames rightB rightA :=
      step rightA memRightA rightB memRightB
    have cross : equivalent ignoreNames leftA rightB = equivalent ignoreNames rightB leftA :=
      step leftA memLeftA rightB memRightB
    have cross' : equivalent ignoreNames rightA leftB = equivalent ignoreNames leftB rightA :=
      step rightA memRightA leftB memLeftB
    rw [equivalent_operation_eq ka kb ca cb, equivalent_operation_eq kb ka cb ca, left, right,
      cross, cross', Bool.and_comm (equivalent ignoreNames rightB leftA)]

theorem equivalent_comm_of_function (ka : a.kind = "function_definition")
    (kb : b.kind = "function_definition") :
    equivalent ignoreNames a b = equivalent ignoreNames b a := by
  have selected (kind : String) :
      areEquivalent ignoreNames (a.childOfKind? kind) (b.childOfKind? kind)
        = areEquivalent ignoreNames (b.childOfKind? kind) (a.childOfKind? kind) :=
    areEquivalent_comm_of_step (fun x hx y hy =>
      step x (List.mem_of_find?_eq_some hx) y (List.mem_of_find?_eq_some hy))
  rw [equivalent_function_eq ka kb, equivalent_function_eq kb ka, selected, selected,
    BEq.comm (a := name? a)]

theorem equivalent_comm_of_return (ka : a.kind = "return_statement")
    (kb : b.kind = "return_statement") :
    equivalent ignoreNames a b = equivalent ignoreNames b a := by
  rw [equivalent_return_eq ka kb, equivalent_return_eq kb ka]
  exact areEquivalent_comm_of_step (fun x hx y hy =>
    step x (List.mem_of_find?_eq_some hx) y (List.mem_of_find?_eq_some hy))

/-- Two nodes may be exchanged if their children may. -/
theorem equivalent_comm_of_step : Exchanges ignoreNames a b := by
  by_cases kind : a.kind = b.kind
  · rcases kind_cases a.kind with name | literal | operation | function | statement | plain
    · rw [Exchanges, equivalent_name_eq name (kind ▸ name), equivalent_name_eq (kind ▸ name) name,
        BEq.comm (a := a.text)]
    · rw [Exchanges, equivalent_literal_eq literal rfl kind.symm,
        equivalent_literal_eq literal kind.symm rfl, BEq.comm (a := a.text)]
    · exact equivalent_comm_of_operation step operation (kind ▸ operation)
    · exact equivalent_comm_of_function step function (kind ▸ function)
    · exact equivalent_comm_of_return step statement (kind ▸ statement)
    · rw [Exchanges, equivalent_plain_eq plain rfl kind.symm,
        equivalent_plain_eq plain kind.symm rfl]
      exact allEquivalent_comm_of_step step
  · have apart : equivalent ignoreNames a b = false :=
      Bool.eq_false_iff.2 (fun h => kind (kind_eq_of_equivalent h))
    have apart' : equivalent ignoreNames b a = false :=
      Bool.eq_false_iff.2 (fun h => kind (kind_eq_of_equivalent h).symm)
    rw [Exchanges, apart, apart']

end Steps

theorem equivalent_comm (a b : Tree) : Exchanges ignoreNames a b := by
  refine equivalent_comm_of_step ?_
  intro x mem y _
  exact equivalent_comm x y
termination_by a.size
decreasing_by
  exact Tree.size_lt_of_mem mem

/-- Equivalence of trees that may be absent does not depend on their order. -/
theorem areEquivalent_comm (ignoreNames : Bool) (a b : Option Tree) :
    areEquivalent ignoreNames a b = areEquivalent ignoreNames b a :=
  areEquivalent_comm_of_step (fun x _ y _ => equivalent_comm x y)

end Equivalence
end Likeness
