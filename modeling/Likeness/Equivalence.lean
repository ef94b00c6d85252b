import Likeness.Text.Blank
import Likeness.Tree

/-!
# Equivalence of trees

Two trees are equivalent when they are the same program up to two liberties: the operands
of `+` and of `*` may be exchanged, and, if asked for, identifiers may have any names.

* Both roots have the same kind.
* Identifiers have the same text, unless names are ignored; literals and comments always.
* A binary operation has its operator between its operands, or in its own text.  Two
  operations with the same commutative operator are compared operand by operand, straight
  or crossed; all others child by child.
* A function definition is compared by its name, its parameters and its body.
* A return statement is compared by its value.
* All other nodes are compared child by child.
-/

namespace Likeness
namespace Equivalence

/-- Operators whose operands may be exchanged. -/
def commutativeOperators : List String :=
  ["+", "*"]

/-- The symbol of an operator token: its text, or its kind if there is none. -/
def operatorSymbol (token : Tree) : String :=
  let text := trim token.text
  if text.isEmpty then token.kind else text

/-- Operands and symbol of a binary operation in either form. -/
def operation? (node : Tree) : Option (Tree × Tree × String) :=
  match node.children with
  | [left, token, right] => some (left, right, operatorSymbol token)
  | [left, right] => some (left, right, trim node.text)
  | _ => none

/-- Operands and symbol of an operation whose operands may be exchanged. -/
def commutative? (node : Tree) : Option (Tree × Tree × String) :=
  (operation? node).filter (fun (_, _, symbol) => commutativeOperators.contains symbol)

def returned? (node : Tree) : Option Tree :=
  node.children.find? (fun child => child.kind != "return")

/-- The name of the function that a node defines, or of the one it calls. -/
def name? (node : Tree) : Option String :=
  (node.childOfKind? "identifier").map Tree.text

section Sizes

/-- Operands are children. -/
theorem mem_of_commutative? {node left right : Tree} {symbol : String}
    (h : commutative? node = some (left, right, symbol)) :
    left ∈ node.children ∧ right ∈ node.children := by
  have h' : operation? node = some (left, right, symbol) :=
    (Option.filter_eq_some_iff.1 h).1
  unfold operation? at h'
  split at h'
  · next hc =>
      simp only [Option.some.injEq, Prod.mk.injEq] at h'
      obtain ⟨rfl, rfl, _⟩ := h'
      simp [hc]
  · next hc =>
      simp only [Option.some.injEq, Prod.mk.injEq] at h'
      obtain ⟨rfl, rfl, _⟩ := h'
      simp [hc]
  · cases h'

/-- Operands are smaller than the operation. -/
theorem size_of_commutative? {node left right : Tree} {symbol : String}
    (h : commutative? node = some (left, right, symbol)) :
    left.size < node.size ∧ right.size < node.size :=
  ⟨Tree.size_lt_of_mem (mem_of_commutative? h).1, Tree.size_lt_of_mem (mem_of_commutative? h).2⟩

/-- The value of a return statement is smaller than the statement. -/
theorem size_of_returned? {node value : Tree} (h : returned? node = some value) :
    value.size < node.size :=
  Tree.size_lt_of_mem (List.mem_of_find?_eq_some h)

/-- A child is smaller than its parent. -/
theorem size_of_childOfKind? {node child : Tree} {kind : String}
    (h : node.childOfKind? kind = some child) : child.size < node.size :=
  Tree.size_lt_of_mem (List.mem_of_find?_eq_some h)

end Sizes

mutual

def equivalent (ignoreNames : Bool) (a b : Tree) : Bool :=
  if a.kind != b.kind then false
  else if a.kind == "identifier" then ignoreNames || a.text == b.text
  else if ["string", "integer", "float", "comment"].contains a.kind then a.text == b.text
  else if a.kind == "binary_operator" then
    match _h : commutative? a, commutative? b with
    | some (leftA, rightA, symbolA), some (leftB, rightB, symbolB) =>
        if symbolA == symbolB then
          (equivalent ignoreNames leftA leftB && equivalent ignoreNames rightA rightB)
            || (equivalent ignoreNames leftA rightB && equivalent ignoreNames rightA leftB)
        else allEquivalent ignoreNames a.children b.children
    | _, _ => allEquivalent ignoreNames a.children b.children
  else if a.kind == "function_definition" then
    (ignoreNames || name? a == name? b)
      && (match _h : a.childOfKind? "parameters", b.childOfKind? "parameters" with
          | none, none => true
          | some x, some y => equivalent ignoreNames x y
          | _, _ => false)
      && (match _h : a.childOfKind? "block", b.childOfKind? "block" with
          | none, none => true
          | some x, some y => equivalent ignoreNames x y
          | _, _ => false)
  else if a.kind == "return_statement" then
    match _h : returned? a, returned? b with
    | none, none => true
    | some x, some y => equivalent ignoreNames x y
    | _, _ => false
  else allEquivalent ignoreNames a.children b.children
termination_by 2 * a.size
decreasing_by
  · have := size_of_commutative? _h
    omega
  · have := size_of_commutative? _h
    omega
  · have := size_of_commutative? _h
    omega
  · have := size_of_commutative? _h
    omega
  · rw [a.size_eq]
    omega
  · rw [a.size_eq]
    omega
  · have := size_of_childOfKind? _h
    omega
  · have := size_of_childOfKind? _h
    omega
  · have := size_of_returned? _h
    omega
  · rw [a.size_eq]
    omega

/-- Whether two forests have as many trees and are equivalent tree by tree. -/
def allEquivalent (ignoreNames : Bool) (as bs : List Tree) : Bool :=
  match as, bs with
  | [], [] => true
  | a :: as, b :: bs => equivalent ignoreNames a b && allEquivalent ignoreNames as bs
  | _, _ => false
termination_by 2 * Forest.size as + 1
decreasing_by
  · rw [Forest.size_cons]
    omega
  · have := a.size_pos
    rw [Forest.size_cons]
    omega

end

end Equivalence

/-- Whether two trees either of which may be absent are equivalent: both absent, or both
present and equivalent. -/
def areEquivalent (ignoreNames : Bool) : Option Tree → Option Tree → Bool
  | none, none => true
  | some a, some b => Equivalence.equivalent ignoreNames a b
  | _, _ => false

end Likeness
