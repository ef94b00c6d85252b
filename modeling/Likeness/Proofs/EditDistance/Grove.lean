import Mathlib.Tactic.Common

/-!
# Forests read from the right

The edit distance takes a forest apart at its right end: the last root is removed, and the
trees below it move up to its place.  `Grove` is the type of forests in which this is a
pattern match: a forest is empty, or it has a last tree with a root, and then consists of
what stands before that tree, the root, and the forest below the root.

Removing last roots one by one leads through the *initial parts* of a forest, one for each
number of nodes.  They are what the rows and columns of the distance table stand for.

**Main statements.**
* `Grove.Initial.total`: of two initial parts of one forest the smaller one is an initial
  part of the larger one.
* `Grove.Initial.apart_or_within`: two last trees of initial parts of one forest stand apart
  from each other, or one of them stands within the other.
-/

namespace Likeness

/-- A forest, read from its right end. -/
inductive Grove (α : Type) where
  | nil
  | node (before : Grove α) (root : α) (below : Grove α)
deriving DecidableEq, Repr

namespace Grove

variable {α : Type}

section Joining

/-- Number of nodes. -/
def size : Grove α → Nat
  | nil => 0
  | node W _ U => W.size + U.size + 1

/-- Two forests side by side. -/
def join (X : Grove α) : Grove α → Grove α
  | nil => X
  | node W p U => node (join X W) p U

instance : Append (Grove α) := ⟨join⟩

@[simp] theorem size_nil : (nil : Grove α).size = 0 := rfl

@[simp] theorem size_node (W : Grove α) (p : α) (U : Grove α) :
    (node W p U).size = W.size + U.size + 1 := rfl

@[simp] theorem append_nil (X : Grove α) : X ++ nil = X := rfl

@[simp] theorem append_node (X W : Grove α) (p : α) (U : Grove α) :
    X ++ node W p U = node (X ++ W) p U := rfl

@[simp] theorem nil_append (X : Grove α) : nil ++ X = X := by
  induction X with
  | nil => rfl
  | node W p U ihW _ => rw [append_node, ihW]

theorem append_assoc (X Y Z : Grove α) : X ++ Y ++ Z = X ++ (Y ++ Z) := by
  induction Z with
  | nil => rfl
  | node W p U ihW _ => simp only [append_node, ihW]

@[simp] theorem size_append (X Y : Grove α) : (X ++ Y).size = X.size + Y.size := by
  induction Y with
  | nil => rfl
  | node W p U ihW _ =>
      simp only [append_node, size_node, ihW]
      omega

/-- The last root goes, and the trees below it move up. -/
theorem size_node_eq (W : Grove α) (p : α) (U : Grove α) :
    (node W p U).size = (W ++ U).size + 1 := by
  rw [size_node, size_append]

theorem size_append_node (W U₁ : Grove α) (p : α) (U₂ : Grove α) :
    (W ++ node U₁ p U₂).size = W.size + 1 + (U₁ ++ U₂).size := by
  rw [size_append, size_node_eq]
  omega

theorem size_append_sub (W U : Grove α) : (W ++ U).size + 1 - (W.size + 1) = U.size := by
  rw [size_append]
  omega

theorem eq_nil_of_size {X : Grove α} (h : X.size = 0) : X = nil := by
  cases X with
  | nil => rfl
  | node W p U => simp at h

theorem size_pos {X : Grove α} (h : X ≠ nil) : 0 < X.size := by
  cases X with
  | nil => exact absurd rfl h
  | node W p U => simp

theorem append_left_cancel {X Y Z : Grove α} (h : X ++ Y = X ++ Z) : Y = Z := by
  induction Y generalizing Z with
  | nil =>
      have hs := congrArg size h
      simp only [append_nil, size_append] at hs
      exact (eq_nil_of_size (by omega)).symm
  | node W p U ihW _ =>
      cases Z with
      | nil =>
          have hs := congrArg size h
          simp only [append_node, append_nil, size_append, size_node] at hs
          omega
      | node V q S =>
          simp only [append_node, node.injEq] at h
          rw [ihW h.1, h.2.1, h.2.2]

theorem append_ne_self (X : Grove α) {Y : Grove α} (h : Y ≠ nil) : X ++ Y ≠ X :=
  fun eq => h (append_left_cancel (eq.trans (append_nil X).symm))

theorem append_right_cancel {X Y Z : Grove α} (h : X ++ Z = Y ++ Z) : X = Y := by
  induction Z with
  | nil => exact h
  | node W p U ihW _ =>
      simp only [append_node, node.injEq, and_true] at h
      exact ihW h

end Joining

section InitialParts

/-- The first forest is what is left of the second one when some last roots, one after the
other, have been removed. -/
inductive Initial (X : Grove α) : Grove α → Prop
  | refl : Initial X X
  | step {W : Grove α} {p : α} {U : Grove α} :
      Initial X (W ++ U) → Initial X (node W p U)

namespace Initial

theorem size_le {X Y : Grove α} (h : Initial X Y) : X.size ≤ Y.size := by
  induction h with
  | refl => exact Nat.le_refl _
  | step _ ih =>
      simp only [size_append, size_node] at ih ⊢
      omega

theorem trans {X Y Z : Grove α} (h : Initial X Y) (h' : Initial Y Z) : Initial X Z := by
  induction h' with
  | refl => exact h
  | step _ ih => exact step ih

theorem ne_nil {W U X : Grove α} {p : α} (h : Initial (node W p U) X) : X ≠ nil := by
  rintro rfl
  nomatch h

/-- A cost to which each last root adds one at most. -/
theorem cost_le {X Y : Grove α} (h : Initial X Y) (cost : Grove α → Nat)
    (delete_le : ∀ W p U, cost (node W p U) ≤ cost (W ++ U) + 1) : cost Y + X.size ≤ cost X + Y.size := by
  induction h with
  | refl => exact Nat.le_refl _
  | @step W p U _ ih =>
      have step := delete_le W p U
      simp only [size_append, size_node] at ih ⊢
      omega

/-- A proper initial part is still there when the last root has been removed. -/
theorem tail {X W U : Grove α} {p : α} (h : Initial X (node W p U))
    (lt : X.size < (node W p U).size) : Initial X (W ++ U) := by
  cases h with
  | refl => exact absurd lt (Nat.lt_irrefl _)
  | step h => exact h

theorem append_left {X Y : Grove α} (W : Grove α) (h : Initial X Y) :
    Initial (W ++ X) (W ++ Y) := by
  induction h with
  | refl => exact refl
  | step _ ih =>
      rw [← append_assoc] at ih
      exact step ih

/-- What stands in front is an initial part. -/
theorem append_right (W U : Grove α) : Initial W (W ++ U) := by
  match U with
  | nil => exact refl
  | node V q S =>
      have h : Initial W (W ++ (V ++ S)) := append_right W (V ++ S)
      rw [← append_assoc] at h
      exact step h
termination_by U.size
decreasing_by
  simp only [size_append, size_node]
  omega

theorem before (W : Grove α) (p : α) (U : Grove α) : Initial W (node W p U) :=
  step (append_right W U)

/-- The last root of an initial part goes. -/
theorem of_node {W U X : Grove α} {p : α} (h : Initial (node W p U) X) : Initial (W ++ U) X :=
  (step refl).trans h

/-- The last tree of an initial part goes. -/
theorem of_node_before {W U X : Grove α} {p : α} (h : Initial (node W p U) X) : Initial W X :=
  (before W p U).trans h

/-- Below the last root of an initial part, an initial part is left. -/
theorem of_node_append {W U P X : Grove α} {p : α} (h : Initial (node W p U) X)
    (part : Initial P U) : Initial (W ++ P) X :=
  (part.append_left W).trans h.of_node

theorem of_nil (X : Grove α) : Initial nil X := by
  have h := append_right nil X
  rwa [nil_append] at h

/-- Of two initial parts of one forest the smaller one is an initial part of the larger. -/
theorem total {X Y Z : Grove α} (hX : Initial X Z) (hY : Initial Y Z)
    (le : X.size ≤ Y.size) : Initial X Y := by
  induction hY with
  | refl => exact hX
  | step hY ih =>
      have lt := hY.size_le
      exact ih (hX.tail (by simp only [size_append, size_node] at lt ⊢; omega))

/-- Initial parts of one forest are told apart by their sizes. -/
theorem eq_of_size {X Y Z : Grove α} (hX : Initial X Z) (hY : Initial Y Z)
    (eq : X.size = Y.size) : X = Y := by
  cases hX.total hY (Nat.le_of_eq eq) with
  | refl => rfl
  | step h =>
      have lt := h.size_le
      simp only [size_append, size_node] at lt eq
      omega

/-- An initial part that reaches beyond the first of two forests ends within the second. -/
theorem exists_append {X W U : Grove α} (h : Initial X (W ++ U)) (le : W.size ≤ X.size) :
    ∃ V, X = W ++ V ∧ Initial V U := by
  match U with
  | nil => exact ⟨nil, h.eq_of_size refl (Nat.le_antisymm h.size_le le), refl⟩
  | node V q S =>
      rw [append_node] at h
      cases h with
      | refl => exact ⟨node V q S, rfl, refl⟩
      | step h =>
          rw [append_assoc] at h
          obtain ⟨V', hX, hV⟩ := exists_append h le
          exact ⟨V', hX, step hV⟩
termination_by U.size
decreasing_by
  simp only [size_append, size_node]
  omega

/-- The last trees of two initial parts of one forest, of which the second one starts further
to the right: it comes after the first one, or it stands below the root of the first one. -/
theorem apart_or_within {Z U U' Q Q' : Grove α} {q q' : α}
    (h : Initial (node U q Q) Z) (h' : Initial (node U' q' Q') Z) (lt : U.size < U'.size) :
    Initial (node U q Q) U' ∨ ∃ Y, U' = U ++ Y ∧ Initial (node Y q' Q') Q := by
  by_cases le : (node U q Q).size ≤ U'.size
  · exact Or.inl (h.total ((before U' q' Q').trans h') le)
  · right
    have small : (node U' q' Q').size < (node U q Q).size := by
      by_contra ge
      cases h.total h' (by omega) with
      | refl => exact absurd lt (Nat.lt_irrefl _)
      | step h =>
          obtain ⟨V, hV, -⟩ := h.exists_append (by omega)
          cases V with
          | nil => rw [hV, append_nil] at le; exact le (Nat.le_refl _)
          | node V₁ v V₂ =>
              simp only [append_node, node.injEq] at hV
              rw [hV.1, size_append] at lt
              omega
    have inner := (h'.total h (Nat.le_of_lt small)).tail small
    obtain ⟨V, hV, hVQ⟩ := inner.exists_append (by simp only [size_node]; omega)
    cases V with
    | nil =>
        have hs := congrArg size hV
        simp only [append_nil, size_node] at hs
        omega
    | node Y r S =>
        simp only [append_node, node.injEq] at hV
        obtain ⟨rfl, rfl, rfl⟩ := hV
        exact ⟨Y, rfl, hVQ⟩

/-- A forest that is not empty starts with a leaf. -/
theorem exists_leaf {X : Grove α} (h : X ≠ nil) : ∃ p, Initial (node nil p nil) X := by
  match X with
  | nil => exact absurd rfl h
  | node W p U =>
      by_cases hWU : W ++ U = nil
      · have hs := congrArg size hWU
        simp only [size_append, size_nil] at hs
        have hW : W = nil := eq_nil_of_size (by omega)
        have hU : U = nil := eq_nil_of_size (by omega)
        exact ⟨p, by rw [hW, hU]; exact refl⟩
      · obtain ⟨r, hr⟩ := exists_leaf hWU
        exact ⟨r, step hr⟩
termination_by X.size
decreasing_by
  simp only [size_append, size_node]
  omega

end Initial

end InitialParts

end Grove

end Likeness
