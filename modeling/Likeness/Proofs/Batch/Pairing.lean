import Likeness.Batch.Pairing
import Mathlib.Data.List.Nodup
import Mathlib.Data.Nat.Choose.Basic

/-!
# Which pairs a batch has

The pairs of some trees are those of two places `i < j`, each with the trees that stand there.
They are listed in row-major order, so no two of them have the same places, and where a pair stands
in the list can be told from its places alone.

**Main statements.**
* `Pairing.mem_all_iff`: what it takes to be one of the pairs.
* `Pairing.pairwise_all`: the order of the pairs.
* `Pairing.count_place`: the places `i < j` belong to one pair, all others to none.
* `Pairing.length_all`: how many pairs there are.
* `Pairing.getElem?_startingAt`: where a pair stands in the list.
* `Pairing.all_row_by_row`: all of this in one statement.
-/

namespace Likeness
namespace Pairing

def place (pair : Pairing) : Nat × Nat :=
  (pair.i, pair.j)

/-- Row-major order. -/
def Before (a b : Pairing) : Prop :=
  a.i < b.i ∨ a.i = b.i ∧ a.j < b.j

section Membership

variable {trees : List Tree} {pair : Pairing}

theorem mem_row_iff {i : Nat} {left : Tree} :
    pair ∈ row i left trees ↔
      pair.i = i ∧ pair.left = left ∧ i < pair.j ∧ trees[pair.j - (i + 1)]? = some pair.right := by
  cases pair with
  | mk first second one other =>
      simp only [row, List.mem_map, Prod.exists, List.mem_zipIdx_iff_le_and_getElem?_sub, mk.injEq]
      constructor
      · rintro ⟨right, j, ⟨hj, there⟩, rfl, rfl, rfl, rfl⟩
        exact ⟨rfl, rfl, hj, there⟩
      · rintro ⟨rfl, rfl, hj, there⟩
        exact ⟨other, second, ⟨hj, there⟩, rfl, rfl, rfl, rfl⟩

/-- Behind the first tree all places are one less. -/
theorem getElem?_behind {left : Tree} {i k : Nat} (h : i < k) :
    (left :: trees)[k - i]? = trees[k - (i + 1)]? := by
  rw [show k - i = k - (i + 1) + 1 by omega, List.getElem?_cons_succ]

theorem mem_startingAt_iff {i : Nat} :
    pair ∈ startingAt i trees ↔
      i ≤ pair.i ∧ pair.i < pair.j ∧ trees[pair.i - i]? = some pair.left ∧
        trees[pair.j - i]? = some pair.right := by
  induction trees generalizing i with
  | nil => simp [startingAt]
  | cons left behind ih =>
      rw [startingAt, List.mem_append, mem_row_iff, ih]
      constructor
      · rintro (⟨rfl, rfl, hj, right⟩ | ⟨hi, hj, first, second⟩)
        · rw [getElem?_behind hj]
          exact ⟨Nat.le_refl _, hj, by simp, right⟩
        · rw [getElem?_behind hi, getElem?_behind (Nat.lt_trans hi hj)]
          exact ⟨Nat.le_of_lt hi, hj, first, second⟩
      · rintro ⟨hi, hj, first, second⟩
        rw [getElem?_behind (Nat.lt_of_le_of_lt hi hj)] at second
        rcases Nat.eq_or_lt_of_le hi with rfl | hi
        · rw [Nat.sub_self, List.getElem?_cons_zero, Option.some.injEq] at first
          exact Or.inl ⟨rfl, first.symm, hj, second⟩
        · rw [getElem?_behind hi] at first
          exact Or.inr ⟨hi, hj, first, second⟩

theorem mem_all_iff :
    pair ∈ all trees ↔
      pair.i < pair.j ∧ trees[pair.i]? = some pair.left ∧ trees[pair.j]? = some pair.right := by
  rw [all, mem_startingAt_iff, Nat.sub_zero, Nat.sub_zero]
  exact and_iff_right (Nat.zero_le _)

theorem lt_length_of_mem_all (h : pair ∈ all trees) : pair.j < trees.length :=
  (List.getElem?_eq_some_iff.1 (mem_all_iff.1 h).2.2).1

theorem exists_mem_all {i j : Nat} (hij : i < j) (hj : j < trees.length) :
    ∃ pair ∈ all trees, pair.place = (i, j) :=
  ⟨⟨i, j, trees[i], trees[j]⟩,
    mem_all_iff.2 ⟨hij, List.getElem?_eq_getElem _, List.getElem?_eq_getElem _⟩, rfl⟩

end Membership

section Order

theorem pairwise_row (i : Nat) (left : Tree) (behind : List Tree) :
    (row i left behind).Pairwise Before := by
  rw [row, List.pairwise_map]
  have ascending := List.pairwise_lt_range' (s := i + 1) (n := behind.length)
  rw [← List.zipIdx_map_snd, List.pairwise_map] at ascending
  exact ascending.imp fun h => Or.inr ⟨rfl, h⟩

theorem pairwise_startingAt (i : Nat) (trees : List Tree) :
    (startingAt i trees).Pairwise Before := by
  induction trees generalizing i with
  | nil => exact List.Pairwise.nil
  | cons left behind ih =>
      rw [startingAt, List.pairwise_append]
      refine ⟨pairwise_row i left behind, ih (i + 1), ?_⟩
      intro a ha b hb
      have first := (mem_row_iff.1 ha).1
      have second := (mem_startingAt_iff.1 hb).1
      exact Or.inl (by omega)

theorem pairwise_all (trees : List Tree) : (all trees).Pairwise Before :=
  pairwise_startingAt 0 trees

theorem nodup_places (trees : List Tree) : ((all trees).map place).Nodup := by
  rw [List.Nodup, List.pairwise_map]
  refine (pairwise_all trees).imp ?_
  intro a b before same
  rw [place, place, Prod.mk.injEq] at same
  rcases before with h | ⟨_, h⟩
  · omega
  · omega

/-- The places `i < j` belong to exactly one pair, all other places to none. -/
theorem count_place (trees : List Tree) (i j : Nat) :
    ((all trees).map place).count (i, j) = if i < j ∧ j < trees.length then 1 else 0 := by
  rw [(nodup_places trees).count]
  congr 1
  rw [eq_iff_iff, List.mem_map]
  constructor
  · rintro ⟨pair, mem, same⟩
    obtain ⟨rfl, rfl⟩ := Prod.mk.inj same
    exact ⟨(mem_all_iff.1 mem).1, lt_length_of_mem_all mem⟩
  · rintro ⟨hij, hj⟩
    exact exists_mem_all hij hj

end Order

section Positions

variable {trees : List Tree} {left right : Tree} {i a d n : Nat}

theorem length_row (i : Nat) (left : Tree) (trees : List Tree) :
    (row i left trees).length = trees.length := by
  rw [row, List.length_map, List.length_zipIdx]

theorem length_startingAt (i : Nat) (trees : List Tree) :
    (startingAt i trees).length = trees.length * (trees.length - 1) / 2 := by
  induction trees generalizing i with
  | nil => rfl
  | cons left behind ih =>
      rw [startingAt, List.length_append, length_row, ih, List.length_cons, Nat.triangle_succ,
        Nat.add_comm]

theorem length_all (trees : List Tree) :
    (all trees).length = trees.length * (trees.length - 1) / 2 :=
  length_startingAt 0 trees

/-- How many pairs of `n` trees stand before the row of the tree at place `a`. -/
def rowStart (n a : Nat) : Nat :=
  a * n - a * (a + 1) / 2

theorem rowStart_zero (n : Nat) : rowStart n 0 = 0 := by
  rw [rowStart, Nat.zero_mul, Nat.zero_sub]

/-- The difference of `rowStart` is never cut off. -/
theorem half_mul_succ_le (le : a ≤ n) : a * (a + 1) / 2 ≤ a * n := by
  cases a with
  | zero =>
      rw [Nat.zero_mul]
      exact Nat.zero_le _
  | succ a =>
      calc (a + 1) * (a + 1 + 1) / 2
          ≤ (a + 1) * ((a + 1) * 2) / 2 := Nat.div_le_div_right (Nat.mul_le_mul_left _ (by omega))
        _ = (a + 1) * (a + 1) := by rw [← Nat.mul_assoc, Nat.mul_div_cancel _ (by decide)]
        _ ≤ (a + 1) * n := Nat.mul_le_mul_left _ le

/-- One more tree in front makes pairs with all `n` others. -/
theorem rowStart_succ (le : a ≤ n) : rowStart (n + 1) (a + 1) = n + rowStart n a := by
  have triangle : (a + 1) * (a + 1 + 1) / 2 = a * (a + 1) / 2 + (a + 1) := by
    have next := Nat.triangle_succ (a + 1)
    rwa [Nat.add_sub_cancel, Nat.add_sub_cancel, Nat.mul_comm, Nat.mul_comm (a + 1) a] at next
  have below := half_mul_succ_le le
  rw [rowStart, rowStart, triangle, Nat.add_mul, Nat.mul_add]
  omega

theorem getElem?_row (there : trees[d]? = some right) :
    (row i left trees)[d]? = some ⟨i, i + 1 + d, left, right⟩ := by
  rw [row, List.getElem?_map, List.getElem?_zipIdx, there]
  rfl

/-- By induction on the trees: the first row comes first, and behind it the rows of the others. -/
theorem getElem?_startingAt (first : trees[a]? = some left)
    (second : trees[a + 1 + d]? = some right) :
    (startingAt i trees)[rowStart trees.length a + d]? =
      some ⟨i + a, i + (a + 1 + d), left, right⟩ := by
  induction trees generalizing i a with
  | nil => cases first
  | cons head behind ih =>
      have inside := (List.getElem?_eq_some_iff.1 second).1
      rw [List.length_cons] at inside
      rw [startingAt, List.length_cons]
      cases a with
      | zero =>
          obtain rfl : head = left := Option.some.inj first
          rw [Nat.zero_add, Nat.add_comm 1 d, List.getElem?_cons_succ] at second
          rw [rowStart_zero, Nat.zero_add, List.getElem?_append_left (by rw [length_row]; omega),
            getElem?_row second, Nat.zero_add, Nat.add_assoc]
          rfl
      | succ a =>
          rw [List.getElem?_cons_succ] at first
          rw [show a + 1 + 1 + d = a + 1 + d + 1 by omega, List.getElem?_cons_succ] at second
          rw [rowStart_succ (by omega), Nat.add_assoc,
            List.getElem?_append_right (by rw [length_row]; omega), length_row,
            Nat.add_sub_cancel_left, ih first second]
          congr 2 <;> omega

/-- Of `n` trees there are half of `n * (n - 1)` pairs, in the order of the first place and then of
the second one.  The places `i < j` belong to one pair and all others to none.  The pair of two
places holds the trees that stand there, and stands itself behind the rows before the first place
and behind the pairs of its own row with a lesser second place. -/
theorem all_row_by_row (trees : List Tree) :
    let n := trees.length
    (all trees).length = n * (n - 1) / 2 ∧
    (all trees).Pairwise (fun a b => a.i < b.i ∨ a.i = b.i ∧ a.j < b.j) ∧
    (∀ i j, ((all trees).map place).count (i, j) = if i < j ∧ j < n then 1 else 0) ∧
    ∀ i j left right, i < j → trees[i]? = some left → trees[j]? = some right →
      (all trees)[i * n - i * (i + 1) / 2 + (j - i - 1)]? = some ⟨i, j, left, right⟩ := by
  refine ⟨length_all trees, pairwise_all trees, count_place trees, ?_⟩
  intro i j left right hij first second
  obtain ⟨d, rfl⟩ := Nat.exists_eq_add_of_le hij
  have there := getElem?_startingAt (i := 0) first second
  rw [Nat.zero_add, Nat.zero_add] at there
  rwa [Nat.sub_sub, Nat.add_sub_cancel_left]

/-- Of four trees the last pair but one is that of the places one and three. -/
theorem all_row_by_row_four :
    let leaf := Tree.leaf "identifier"
    let trees := [leaf "a", leaf "b", leaf "c", leaf "d"]
    (1 < 3 ∧ trees[1]? = some (leaf "b") ∧ trees[3]? = some (leaf "d")) ∧
    (all trees)[4]? = some ⟨1, 3, leaf "b", leaf "d"⟩ := by
  intro leaf trees
  exact ⟨⟨by decide, rfl, rfl⟩, (all_row_by_row trees).2.2.2 1 3 _ _ (by decide) rfl rfl⟩

end Positions

end Pairing
end Likeness
