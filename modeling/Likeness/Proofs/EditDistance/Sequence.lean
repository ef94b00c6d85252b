import Mathlib.Order.Bounds.Defs
import Likeness.Proofs.EditDistance.Metric

/-!
# Trees as sequences of nodes

A tree in post-order is a sequence of nodes, which may be edited like a text: one entry after the
other is deleted, inserted, or put in the place of an entry of the other sequence.  Whoever edits
trees edits their sequences too, but has to respect which node stands below which.  So the distance
of two trees is no less than that of their sequences.

This holds although single entries of the table below two roots may fall short of what their own
forests differ by.  They are never used alone: what stands before the two roots is added, and
the sum is no less than the distance of everything up to these roots.

**Main statements.**
* `isLeast_sequenceDistance`: the distance of two sequences is the least cost of a script.
* `Grove.exists_script`: the sequences of two forests have a script that costs no more than the
  distance of the forests.
* `sequenceDistance_le_editDistance`: both bounds for the numbers that the program computes.
-/

namespace Likeness

section Scripts

variable {α β : Type}

/-- A script that edits one sequence into another, and its cost.  Deleting and inserting cost one,
and `cost` says what it costs to put one entry in the place of another. -/
inductive Script (cost : α → β → Nat) : List α → List β → Nat → Prop
  | done : Script cost [] [] 0
  | delete {xs : List α} {ys : List β} {n : Nat} (x : α) :
      Script cost xs ys n → Script cost (x :: xs) ys (n + 1)
  | insert {xs : List α} {ys : List β} {n : Nat} (y : β) :
      Script cost xs ys n → Script cost xs (y :: ys) (n + 1)
  | substitute {xs : List α} {ys : List β} {n : Nat} (x : α) (y : β) :
      Script cost xs ys n → Script cost (x :: xs) (y :: ys) (n + cost x y)

/-- The least cost of editing one sequence into another. -/
def sequenceDistance (cost : α → β → Nat) : List α → List β → Nat
  | [], ys => ys.length
  | x :: xs, [] => (x :: xs).length
  | x :: xs, y :: ys =>
      min (min (sequenceDistance cost xs (y :: ys) + 1) (sequenceDistance cost (x :: xs) ys + 1))
        (sequenceDistance cost xs ys + cost x y)
termination_by xs ys => xs.length + ys.length

variable {cost : α → β → Nat}

namespace Script

theorem of_deletions (xs : List α) : Script cost xs [] xs.length := by
  induction xs with
  | nil => exact done
  | cons x xs ih => exact delete x ih

theorem of_insertions (ys : List β) : Script cost [] ys ys.length := by
  induction ys with
  | nil => exact done
  | cons y ys ih => exact insert y ih

/-- Scripts are carried out one after the other. -/
theorem append {xs xs' : List α} {ys ys' : List β} {n n' : Nat} (first : Script cost xs ys n)
    (second : Script cost xs' ys' n') : Script cost (xs ++ xs') (ys ++ ys') (n + n') := by
  induction first with
  | done => rwa [Nat.zero_add]
  | delete x _ ih =>
      rw [Nat.add_right_comm]
      exact delete x ih
  | insert y _ ih =>
      rw [Nat.add_right_comm]
      exact insert y ih
  | substitute x y _ ih =>
      rw [Nat.add_right_comm]
      exact substitute x y ih

/-- A script of what is seen of the entries is a script of the entries. -/
theorem of_map {γ δ : Type} {f : γ → α} {g : δ → β} {xs : List γ} {ys : List δ} {n : Nat}
    (script : Script cost (xs.map f) (ys.map g) n) :
    Script (fun x y => cost (f x) (g y)) xs ys n := by
  generalize hxs : xs.map f = us, hys : ys.map g = vs at script
  induction script generalizing xs ys with
  | done =>
      rw [List.map_eq_nil_iff.1 hxs, List.map_eq_nil_iff.1 hys]
      exact done
  | delete _ _ ih =>
      obtain ⟨x, xs, rfl, rfl, rest⟩ := List.map_eq_cons_iff.1 hxs
      exact delete x (ih rest hys)
  | insert _ _ ih =>
      obtain ⟨y, ys, rfl, rfl, rest⟩ := List.map_eq_cons_iff.1 hys
      exact insert y (ih hxs rest)
  | substitute _ _ _ ih =>
      obtain ⟨x, xs, rfl, rfl, rest⟩ := List.map_eq_cons_iff.1 hxs
      obtain ⟨y, ys, rfl, rfl, rest'⟩ := List.map_eq_cons_iff.1 hys
      exact substitute x y (ih rest rest')

/-- A script costs at least the difference of the lengths. -/
theorem length_le {xs : List α} {ys : List β} {n : Nat} (script : Script cost xs ys n) :
    xs.length ≤ ys.length + n ∧ ys.length ≤ xs.length + n := by
  induction script with
  | done => exact ⟨Nat.le_refl _, Nat.le_refl _⟩
  | delete _ _ ih | insert _ _ ih | substitute _ _ _ ih =>
      simp only [List.length_cons]
      omega

end Script

/-- The distance is reached in one of the three ways. -/
theorem sequenceDistance_cases (cost : α → β → Nat) (x : α) (xs : List α) (y : β) (ys : List β) :
    sequenceDistance cost (x :: xs) (y :: ys) = sequenceDistance cost xs (y :: ys) + 1
      ∨ sequenceDistance cost (x :: xs) (y :: ys) = sequenceDistance cost (x :: xs) ys + 1
      ∨ sequenceDistance cost (x :: xs) (y :: ys) = sequenceDistance cost xs ys + cost x y := by
  rw [sequenceDistance]
  omega

theorem script_sequenceDistance (xs : List α) (ys : List β) :
    Script cost xs ys (sequenceDistance cost xs ys) := by
  match xs, ys with
  | [], ys =>
      rw [sequenceDistance]
      exact .of_insertions ys
  | x :: xs, [] =>
      rw [sequenceDistance]
      exact .of_deletions (x :: xs)
  | x :: xs, y :: ys =>
      rcases sequenceDistance_cases cost x xs y ys with h | h | h
      · rw [h]
        exact .delete x (script_sequenceDistance xs (y :: ys))
      · rw [h]
        exact .insert y (script_sequenceDistance (x :: xs) ys)
      · rw [h]
        exact .substitute x y (script_sequenceDistance xs ys)
termination_by xs.length + ys.length

theorem sequenceDistance_delete_le (cost : α → β → Nat) (x : α) (xs : List α) (ys : List β) :
    sequenceDistance cost (x :: xs) ys ≤ sequenceDistance cost xs ys + 1 := by
  cases ys with
  | nil => cases xs <;> simp [sequenceDistance]
  | cons y ys =>
      rw [sequenceDistance]
      omega

theorem sequenceDistance_insert_le (cost : α → β → Nat) (xs : List α) (y : β) (ys : List β) :
    sequenceDistance cost xs (y :: ys) ≤ sequenceDistance cost xs ys + 1 := by
  cases xs with
  | nil => simp [sequenceDistance]
  | cons x xs =>
      rw [sequenceDistance]
      omega

theorem sequenceDistance_le {xs : List α} {ys : List β} {n : Nat} (script : Script cost xs ys n) :
    sequenceDistance cost xs ys ≤ n := by
  induction script with
  | done => exact Nat.le_of_eq (by rw [sequenceDistance, List.length_nil])
  | @delete xs ys _ x _ ih =>
      have step := sequenceDistance_delete_le cost x xs ys
      omega
  | @insert xs ys _ y _ ih =>
      have step := sequenceDistance_insert_le cost xs y ys
      omega
  | substitute x y _ ih =>
      rw [sequenceDistance]
      omega

/-- The distance of two sequences is the least cost of a script. -/
theorem isLeast_sequenceDistance (xs : List α) (ys : List β) :
    IsLeast {n | Script cost xs ys n} (sequenceDistance cost xs ys) :=
  ⟨script_sequenceDistance xs ys, fun _ script => sequenceDistance_le script⟩

end Scripts

namespace Grove

variable {α : Type}

/-- The labels of a forest, each after those below it. -/
def postorder : Grove α → List α
  | nil => []
  | node W p U => postorder W ++ (postorder U ++ [p])

theorem postorder_append (X Y : Grove α) : (X ++ Y).postorder = X.postorder ++ Y.postorder := by
  induction Y with
  | nil => rw [append_nil, postorder, List.append_nil]
  | node W p U ihW _ => rw [append_node, postorder, ihW, postorder, List.append_assoc]

/-- The last label goes with the last root. -/
theorem postorder_node (W : Grove α) (p : α) (U : Grove α) :
    (node W p U).postorder = (W ++ U).postorder ++ [p] := by
  rw [postorder, postorder_append, List.append_assoc]

theorem length_postorder (X : Grove α) : X.postorder.length = X.size := by
  induction X with
  | nil => rfl
  | node W p U ihW ihU =>
      rw [postorder, List.length_append, List.length_append, ihW, ihU, size_node]
      rfl

variable [DecidableEq α]

/-- The sequences of two forests have a script that costs no more than the distance of the
forests. -/
theorem exists_script (X Y : Grove α) :
    ∃ n, n ≤ distance X Y ∧ Script relabel X.postorder Y.postorder n := by
  cases X with
  | nil => exact ⟨Y.postorder.length, by simp [length_postorder], .of_insertions _⟩
  | node W p U =>
      cases Y with
      | nil => exact ⟨(node W p U).postorder.length, by simp [length_postorder], .of_deletions _⟩
      | node V q S =>
          rcases distance_cases W p U V q S with h | h | h
          · obtain ⟨n, le, script⟩ := exists_script (W ++ U) (node V q S)
            refine ⟨n + 1, by omega, ?_⟩
            rw [postorder_node W]
            simpa using script.append (.delete p .done)
          · obtain ⟨n, le, script⟩ := exists_script (node W p U) (V ++ S)
            refine ⟨n + 1, by omega, ?_⟩
            rw [postorder_node V]
            simpa using script.append (.insert q .done)
          · -- both parts of a match together are no less than the distance without the roots
            have both := distance_append_le W V U S
            obtain ⟨n, le, script⟩ := exists_script (W ++ U) (V ++ S)
            refine ⟨n + relabel p q, by omega, ?_⟩
            rw [postorder_node W, postorder_node V]
            simpa using script.append (.substitute p q .done)
termination_by X.size + Y.size
decreasing_by
  all_goals simp only [size_append, size_node]
  all_goals omega

end Grove

section Nodes

mutual

theorem Tree.postorder_outline (tree : Tree) :
    tree.outline.postorder = tree.postorder.map Tree.label := by
  cases tree with
  | mk kind text start? stop? children =>
      rw [Tree.outline_eq, Grove.postorder_node, Grove.nil_append,
        Forest.postorder_outline children, Tree.postorder, List.map_append]
      rfl

theorem Forest.postorder_outline (forest : List Tree) :
    (Forest.outline forest).postorder = (Forest.postorder forest).map Tree.label := by
  cases forest with
  | nil =>
      rw [Forest.outline_nil, Forest.postorder]
      rfl
  | cons tree rest =>
      rw [Forest.outline_cons, Grove.postorder_append, Tree.postorder_outline tree,
        Forest.postorder_outline rest, Forest.postorder, List.map_append]

end

/-- The distance of two trees is at least that of their nodes in post-order, read as sequences in
which an entry costs one to delete or to insert; in particular it is at least the difference of the
numbers of nodes. -/
theorem sequenceDistance_le_editDistance (a b : Tree) :
    sequenceDistance (fun x y => EditDistance.nodeCost (some x) (some y)) a.postorder b.postorder
        ≤ editDistance a b
      ∧ ((a.count : Int) - b.count).natAbs ≤ editDistance a b := by
  obtain ⟨n, le, script⟩ := Grove.exists_script a.outline b.outline
  rw [← editDistance_eq] at le
  rw [Tree.postorder_outline, Tree.postorder_outline] at script
  have nodes := script.of_map
  simp only [← EditDistance.substitution_eq_relabel] at nodes
  have lengths := nodes.length_le
  rw [Tree.length_postorder, Tree.length_postorder] at lengths
  refine ⟨Nat.le_trans (sequenceDistance_le nodes) le, ?_⟩
  rw [Tree.count_eq, Tree.count_eq]
  omega

end Nodes

end Likeness
