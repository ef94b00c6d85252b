import Likeness.Proofs.Answer
import Likeness.Proofs.Matrix

/-!
# Matrices after any sequence of writes

A write checks the two places in the array that it goes to, and not its indices.  An index behind
the last column still addresses a place inside, namely one of a later row; but then the place of
the reversed pair lies behind the end.  So the writes that go through are those to the pairs of the
matrix, and what a sequence of them leaves in a cell is the value that was written to its pair last.

**Main statements.**
* `SymmetricMatrix.set_eq_ok`: a write that goes through has both indices in range.
* `SymmetricMatrix.setAll_spec`: what a sequence of writes leaves behind.
* `SymmetricMatrix.cells_hold_last_written`: the cells of a matrix that started filled.
-/

namespace Likeness
namespace SymmetricMatrix

/-- A value that is written to a pair. -/
structure Write (α : Type) where
  i : Nat
  j : Nat
  value : α

namespace Write

variable {α : Type}

/-- The write is one to this pair, in either order. -/
def IsOf (w : Write α) (i j : Nat) : Prop :=
  (i = w.i ∧ j = w.j) ∨ (i = w.j ∧ j = w.i)

instance (w : Write α) (i j : Nat) : Decidable (w.IsOf i j) :=
  inferInstanceAs (Decidable (_ ∨ _))

theorem isOf_comm (w : Write α) (i j : Nat) : w.IsOf i j ↔ w.IsOf j i := by
  rw [IsOf, IsOf, or_comm, and_comm, and_comm (a := i = w.i)]

/-- The value that is written last to a pair. -/
def last? (writes : List (Write α)) (i j : Nat) : Option α :=
  (writes.filter (·.IsOf i j)).getLast?.map Write.value

theorem last?_cons (w : Write α) (rest : List (Write α)) (i j : Nat) :
    last? (w :: rest) i j = (last? rest i j).or (if w.IsOf i j then some w.value else none) := by
  by_cases here : w.IsOf i j
  · rw [last?, List.filter_cons_of_pos (by simpa using here), List.getLast?_cons, if_pos here, last?]
    cases (rest.filter (·.IsOf i j)).getLast? <;> rfl
  · rw [last?, List.filter_cons_of_neg (by simpa using here), if_neg here, last?, Option.or_none]

theorem last?_comm (writes : List (Write α)) (i j : Nat) : last? writes i j = last? writes j i := by
  simp only [last?, isOf_comm _ i j]

end Write

variable {α : Type} {m m' : SymmetricMatrix α}

/-- Writes values one after the other.  The first write that is refused ends it. -/
def setAll (m : SymmetricMatrix α) (writes : List (Write α)) :
    Except (SymmetricMatrix α) (SymmetricMatrix α) :=
  writes.foldlM (fun m w => m.set w.i w.j w.value) m

section Steps

variable {i j n : Nat} {value : α}

/-- The column may be out of range here, but not the row. -/
theorem row_lt_of_cell_lt (inside : i * n + j < n * n) : i < n := by
  by_contra beyond
  have below := Nat.mul_le_mul_right n (Nat.le_of_not_lt beyond)
  omega

theorem write?_eq_some (square : m.IsSquare) (done : m.write? i j value = some m') :
    i < m.size ∧ m'.size = m.size ∧ m'.IsSquare := by
  rw [write?] at done
  split at done
  · next inside =>
      cases done
      rw [square] at inside
      exact ⟨row_lt_of_cell_lt inside, rfl, by simpa [IsSquare] using square⟩
  · cases done

/-- If an index is out of range, the write to the row of this index is refused. -/
theorem set_eq_ok (square : m.IsSquare) (done : m.set i j value = .ok m') :
    i < m.size ∧ j < m.size ∧ m' = m.put i j value := by
  have same : m' = m.put i j value := by rw [put, done]
  rw [set] at done
  split at done
  · cases done
  · next m₁ first =>
      split at done
      · cases done
      · next m₂ second =>
          obtain ⟨hi, size, square⟩ := write?_eq_some square first
          obtain ⟨hj, -⟩ := write?_eq_some square second
          exact ⟨hi, size ▸ hj, same⟩

/-- The place of the cell in row `0` and column `2` is that of a cell in row `1`.  What was written
there stays, but the write is refused. -/
example : (filled 2 1 0).set 0 2 9 = .error ⟨2, #[1, 0, 9, 1]⟩ := by
  decide +kernel

theorem exists_set (square : m.IsSquare) (hi : i < m.size) (hj : j < m.size) (value : α) :
    ∃ m', m.set i j value = .ok m' := by
  obtain ⟨m₁, first, size₁, square₁, -⟩ := write?_spec square hi hj value
  obtain ⟨m₂, second, -⟩ := write?_spec square₁ (size₁ ▸ hj) (size₁ ▸ hi) value
  exact ⟨m₂, by simp only [set, first, second]⟩

theorem set_spec (square : m.IsSquare) {w : Write α} (done : m.set w.i w.j w.value = .ok m') :
    w.i < m.size ∧ w.j < m.size ∧ m'.size = m.size ∧ m'.IsSquare ∧
      ∀ i j, j < m.size → m'.get? i j = if w.IsOf i j then some w.value else m.get? i j := by
  obtain ⟨hi, hj, rfl⟩ := set_eq_ok square done
  exact ⟨hi, hj, put_spec square hi hj w.value⟩

end Steps

section Sequences

variable {writes : List (Write α)}

theorem setAll_cons_eq_ok {w : Write α} (done : m.setAll (w :: writes) = .ok m') :
    ∃ m₁, m.set w.i w.j w.value = .ok m₁ ∧ m₁.setAll writes = .ok m' := by
  rw [setAll, List.foldlM_cons] at done
  exact bind_eq_ok done

/-- By induction on the writes: what the first one leaves behind is square again. -/
theorem setAll_spec (square : m.IsSquare) (done : m.setAll writes = .ok m') :
    (∀ w ∈ writes, w.i < m.size ∧ w.j < m.size) ∧ m'.size = m.size ∧ m'.IsSquare ∧
      ∀ i j, j < m.size → m'.get? i j = (Write.last? writes i j).or (m.get? i j) := by
  induction writes generalizing m with
  | nil =>
      cases done
      exact ⟨by simp, rfl, square, fun i j _ => rfl⟩
  | cons w rest ih =>
      obtain ⟨m₁, first, later⟩ := setAll_cons_eq_ok done
      obtain ⟨hi, hj, size₁, square₁, cells₁⟩ := set_spec square first
      obtain ⟨inside, size, square', cells⟩ := ih square₁ later
      rw [size₁] at inside size cells
      refine ⟨List.forall_mem_cons.2 ⟨⟨hi, hj⟩, inside⟩, size, square', ?_⟩
      intro i j below
      rw [cells i j below, cells₁ i j below, Write.last?_cons, Option.or_assoc]
      split <;> rfl

/-- The rows of a matrix hold its cells. -/
theorem rows?_eq {n : Nat} (square : m.IsSquare) (size : m.size = n) {value : Nat → Nat → α}
    (cells : ∀ i j, i < n → j < n → m.get? i j = some (value i j)) :
    m.rows? = some ((List.range n).map fun i => (List.range n).map (value i)) := by
  subst size
  rw [rows?, mapM_eq_some_iff, List.map_map]
  refine List.map_congr_left fun i mem => ?_
  have hi := List.mem_range.1 mem
  obtain ⟨row, there, length, same⟩ := row?_spec (Nat.le_of_eq square.symm) hi
  rw [there]
  congr 1
  refine List.ext_getElem? fun j => ?_
  by_cases hj : j < m.size
  · rw [same j hj, cells i j hi hj]
    simp [hj]
  · rw [List.getElem?_eq_none (by omega), List.getElem?_eq_none (by simpa using hj)]

theorem exists_setAll_iff (square : m.IsSquare) :
    (∃ m', m.setAll writes = .ok m') ↔ ∀ w ∈ writes, w.i < m.size ∧ w.j < m.size := by
  constructor
  · rintro ⟨m', done⟩
    exact (setAll_spec square done).1
  · intro inside
    induction writes generalizing m with
    | nil => exact ⟨m, rfl⟩
    | cons w rest ih =>
        obtain ⟨⟨hi, hj⟩, later⟩ := List.forall_mem_cons.1 inside
        obtain ⟨m₁, first⟩ := exists_set square hi hj w.value
        obtain ⟨-, -, size, square, -⟩ := set_spec square first
        obtain ⟨m', done⟩ := ih square (size ▸ later)
        refine ⟨m', ?_⟩
        rw [setAll, List.foldlM_cons, first]
        exact done

/-- A sequence of writes goes through exactly if all indices are below the size.  Then the size and
the length of the array are as they were, both cells of a pair hold what was written last to the
pair, in either order of the indices, and those of a pair that was never written what the matrix
started with.  The rows list all cells. -/
theorem cells_hold_last_written (n : Nat) (diagonal elsewhere : α) (writes : List (Write α)) :
    ((∃ m, (filled n diagonal elsewhere).setAll writes = .ok m) ↔
      ∀ w ∈ writes, w.i < n ∧ w.j < n) ∧
    ∀ m, (filled n diagonal elsewhere).setAll writes = .ok m →
      let value := fun i j => (Write.last? writes i j).getD (if i = j then diagonal else elsewhere)
      m.size = n ∧ m.cells.size = n * n ∧
      (∀ i j, i < n → j < n → m.get? i j = m.get? j i ∧ m.get? i j = some (value i j)) ∧
      m.rows? = some ((List.range n).map fun i => (List.range n).map (value i)) := by
  have start := isSquare_filled n diagonal elsewhere
  refine ⟨exists_setAll_iff start, ?_⟩
  intro m done value
  obtain ⟨-, size, square, cells⟩ := setAll_spec start done
  have hold : ∀ i j, i < n → j < n → m.get? i j = some (value i j) := by
    intro i j hi hj
    rw [cells i j hj, get?_filled hi hj]
    cases last : Write.last? writes i j <;> simp [value, last]
  have sizes : m.cells.size = n * n := by
    rw [square, size]
    rfl
  refine ⟨size, sizes, ?_, rows?_eq square size hold⟩
  intro i j hi hj
  refine ⟨?_, hold i j hi hj⟩
  rw [hold i j hi hj, hold j i hj hi]
  simp only [value, Write.last?_comm writes i j, eq_comm]

/-- One pair is written in both orders, and one cell is on the diagonal. -/
def sampleWrites : List (Write Nat) :=
  [⟨0, 1, 5⟩, ⟨2, 2, 4⟩, ⟨1, 0, 7⟩, ⟨2, 0, 6⟩]

theorem cells_hold_last_written_sample :
    let written : SymmetricMatrix Nat := ⟨3, #[1, 7, 6, 7, 1, 0, 6, 0, 4]⟩
    (filled 3 1 0).setAll sampleWrites = .ok written ∧
    (∀ w ∈ sampleWrites, w.i < 3 ∧ w.j < 3) ∧
    written.get? 0 1 = some 7 ∧ written.rows? = some [[1, 7, 6], [7, 1, 0], [6, 0, 4]] := by
  intro written
  have done : (filled 3 1 0).setAll sampleWrites = .ok written := by decide +kernel
  obtain ⟨through, after⟩ := cells_hold_last_written 3 1 0 sampleWrites
  obtain ⟨-, -, cells, rows⟩ := after written done
  exact ⟨done, through.1 ⟨written, done⟩, (cells 0 1 (by decide) (by decide)).2, rows⟩

end Sequences
end SymmetricMatrix
end Likeness
