import Likeness.Batch.Ledger

/-!
# Symmetric matrices cell by cell

A matrix that starts filled has one cell for each ordered pair of indices below its size.  A
write to such a matrix changes the cell of a pair and that of the reversed pair and no other
one, so a matrix into which the values of different pairs are written holds them all.

**Main statements.**
* `SymmetricMatrix.row?_spec`: which cells a row has.
* `SymmetricMatrix.put_spec`: what a write changes.
* `SymmetricMatrix.ext_get?`: a matrix is determined by its cells.
* `SymmetricMatrix.Holds.put`: a write adds one entry to those that a matrix holds.
-/

namespace Likeness
namespace SymmetricMatrix

variable {α : Type} {m : SymmetricMatrix α}

section Cells

variable {n i j : Nat}

theorem cell_div (hj : j < n) (i : Nat) : (i * n + j) / n = i := by
  rw [Nat.mul_comm, Nat.mul_add_div (by omega), Nat.div_eq_of_lt hj, Nat.add_zero]

theorem cell_mod (hj : j < n) (i : Nat) : (i * n + j) % n = j := by
  rw [Nat.mul_comm, Nat.mul_add_mod, Nat.mod_eq_of_lt hj]

theorem cell_inside (hi : i < n) (hj : j < n) : i * n + j < n * n := by
  rw [← Nat.div_lt_iff_lt_mul (by omega), cell_div hj]
  exact hi

theorem cell_eq_iff {a b : Nat} (hb : b < n) (hj : j < n) :
    i * n + j = a * n + b ↔ a = i ∧ b = j := by
  constructor
  · intro same
    constructor
    · rw [← cell_div hb a, ← same, cell_div hj]
    · rw [← cell_mod hb a, ← same, cell_mod hj]
  · rintro ⟨rfl, rfl⟩
    rfl

/-- The array has one cell for each ordered pair of indices. -/
def IsSquare (m : SymmetricMatrix α) : Prop :=
  m.cells.size = m.size * m.size

theorem isSquare_filled (n : Nat) (diagonal elsewhere : α) :
    (filled n diagonal elsewhere).IsSquare := by
  rw [IsSquare, filled, Array.size_ofFn]

theorem get?_filled (hi : i < n) (hj : j < n) (diagonal elsewhere : α) :
    (filled n diagonal elsewhere).get? i j = some (if i = j then diagonal else elsewhere) := by
  simp [filled, get?, cell_inside hi hj, cell_div hj, cell_mod hj]

/-- A matrix is determined by its cells. -/
theorem ext_get? {m' : SymmetricMatrix α} (square : m.IsSquare) (square' : m'.IsSquare)
    (size : m'.size = m.size)
    (same : ∀ i j, i < m.size → j < m.size → m.get? i j = m'.get? i j) : m = m' := by
  obtain ⟨n, cells⟩ := m
  obtain ⟨n', cells'⟩ := m'
  obtain rfl : n' = n := size
  simp only [IsSquare] at square square'
  congr 1
  apply Array.ext_getElem?
  intro k
  -- a place in the array is the cell of its quotient and remainder, or beyond both arrays
  by_cases inside : k < n' * n'
  · have positive : 0 < n' := Nat.pos_of_mul_pos_left (Nat.lt_of_le_of_lt (Nat.zero_le k) inside)
    have row : k / n' < n' := (Nat.div_lt_iff_lt_mul positive).2 inside
    have cell := same (k / n') (k % n') row (Nat.mod_lt k positive)
    rwa [get?, get?, Nat.mul_comm, Nat.div_add_mod] at cell
  · rw [Array.getElem?_eq_none (by omega), Array.getElem?_eq_none (by omega)]

/-- A row has one cell for each column, if the array is long enough. -/
theorem row?_spec (enough : m.size * m.size ≤ m.cells.size) (hi : i < m.size) :
    ∃ cells, m.row? i = some cells ∧ cells.length = m.size ∧
      ∀ j, j < m.size → cells[j]? = m.get? i j := by
  have inside : (i + 1) * m.size ≤ m.cells.size :=
    Nat.le_trans (Nat.mul_le_mul_right _ hi) enough
  have width : (i + 1) * m.size - i * m.size = m.size := by
    rw [Nat.succ_mul, Nat.add_sub_cancel_left]
  refine ⟨_, if_pos inside, ?_, ?_⟩
  · rw [Array.length_toList, Array.size_extract, Nat.min_eq_left inside, width]
  · intro j hj
    rw [Array.getElem?_toList, Array.getElem?_extract, Nat.min_eq_left inside, width, if_pos hj,
      get?]

end Cells

section Writing

variable {i j : Nat}

/-- A write to one ordered pair changes its cell only. -/
theorem write?_spec (square : m.IsSquare) (hi : i < m.size) (hj : j < m.size) (value : α) :
    ∃ m', m.write? i j value = some m' ∧ m'.size = m.size ∧ m'.IsSquare ∧
      ∀ a b, b < m.size → m'.get? a b = if a = i ∧ b = j then some value else m.get? a b := by
  have inside : i * m.size + j < m.cells.size := by
    rw [square]
    exact cell_inside hi hj
  refine ⟨_, dif_pos inside, rfl, by simpa [IsSquare] using square, ?_⟩
  intro a b hb
  simp only [get?, Array.getElem?_set, cell_eq_iff hb hj]

/-- What a write to a pair leaves behind. -/
theorem put_spec (square : m.IsSquare) (hi : i < m.size) (hj : j < m.size) (value : α) :
    (m.put i j value).size = m.size ∧ (m.put i j value).IsSquare ∧
      ∀ a b, b < m.size → (m.put i j value).get? a b =
        if (a = i ∧ b = j) ∨ (a = j ∧ b = i) then some value else m.get? a b := by
  obtain ⟨m₁, first, size₁, square₁, cells₁⟩ := write?_spec square hi hj value
  obtain ⟨m₂, second, size₂, square₂, cells₂⟩ :=
    write?_spec square₁ (i := j) (j := i) (by omega) (by omega) value
  have both : m.put i j value = m₂ := by
    simp only [put, set, first, second]
  rw [both]
  refine ⟨size₂.trans size₁, square₂, ?_⟩
  intro a b hb
  rw [cells₂ a b (by omega), cells₁ a b hb]
  by_cases here : a = j ∧ b = i
  · rw [if_pos here, if_pos (Or.inr here)]
  · rw [if_neg here]
    simp only [here, or_false]

end Writing

section Holding

variable {n : Nat} {diagonal elsewhere : α} {entries : List ((Nat × Nat) × α)}

/-- A matrix of size `n` holds the value of each entry in both cells of its pair, one value on
the diagonal, and another one in all cells without an entry. -/
structure Holds (m : SymmetricMatrix α) (n : Nat) (diagonal elsewhere : α)
    (entries : List ((Nat × Nat) × α)) : Prop where
  size_eq : m.size = n
  square : m.IsSquare
  ordered : ∀ i j value, ((i, j), value) ∈ entries → i < j ∧ j < n
  onDiagonal : ∀ i, i < n → m.get? i i = some diagonal
  written : ∀ i j value, ((i, j), value) ∈ entries →
    m.get? i j = some value ∧ m.get? j i = some value
  unwritten : ∀ i j, i < j → j < n → (i, j) ∉ entries.map Prod.fst →
    m.get? i j = some elsewhere ∧ m.get? j i = some elsewhere

namespace Holds

theorem filled (n : Nat) (diagonal elsewhere : α) :
    Holds (filled n diagonal elsewhere) n diagonal elsewhere [] where
  size_eq := rfl
  square := isSquare_filled n diagonal elsewhere
  ordered i j value mem := by cases mem
  onDiagonal i hi := by rw [get?_filled hi hi, if_pos rfl]
  written i j value mem := by cases mem
  unwritten i j hij hj _ := by
    rw [get?_filled (by omega) hj, get?_filled hj (by omega), if_neg (by omega),
      if_neg (by omega)]
    exact ⟨rfl, rfl⟩

/-- A write adds an entry if there is none for its pair yet. -/
theorem put (h : Holds m n diagonal elsewhere entries) {i j : Nat} (hij : i < j) (hj : j < n)
    (fresh : (i, j) ∉ entries.map Prod.fst) (value : α) :
    Holds (m.put i j value) n diagonal elsewhere (entries ++ [((i, j), value)]) := by
  obtain ⟨size, square, cells⟩ :=
    put_spec h.square (i := i) (j := j) (by rw [h.size_eq]; omega) (by rw [h.size_eq]; omega) value
  rw [h.size_eq] at cells
  -- a pair that stands in order is the new one or untouched by the write
  have apart : ∀ a b, a < b → b < n → (a, b) ≠ (i, j) →
      (m.put i j value).get? a b = m.get? a b ∧ (m.put i j value).get? b a = m.get? b a := by
    intro a b hab hb other
    rw [Ne, Prod.mk.injEq] at other
    rw [cells a b hb, cells b a (by omega), if_neg (by omega), if_neg (by omega)]
    exact ⟨rfl, rfl⟩
  refine ⟨size.trans h.size_eq, square, ?_, ?_, ?_, ?_⟩
  · intro a b old mem
    rcases List.mem_append.1 mem with mem | mem
    · exact h.ordered a b old mem
    · cases List.mem_singleton.1 mem
      exact ⟨hij, hj⟩
  · intro a ha
    rw [cells a a ha, if_neg (by omega)]
    exact h.onDiagonal a ha
  · intro a b old mem
    rcases List.mem_append.1 mem with mem | mem
    · obtain ⟨hab, hb⟩ := h.ordered a b old mem
      have other : (a, b) ≠ (i, j) := by
        rintro same
        exact fresh (same ▸ List.mem_map_of_mem mem)
      obtain ⟨first, second⟩ := apart a b hab hb other
      rw [first, second]
      exact h.written a b old mem
    · cases List.mem_singleton.1 mem
      rw [cells i j hj, cells j i (by omega), if_pos (Or.inl ⟨rfl, rfl⟩),
        if_pos (Or.inr ⟨rfl, rfl⟩)]
      exact ⟨rfl, rfl⟩
  · intro a b hab hb absent
    rw [List.map_append, List.mem_append, not_or] at absent
    have other : (a, b) ≠ (i, j) := fun same => absent.2 (by simp [same])
    obtain ⟨first, second⟩ := apart a b hab hb other
    rw [first, second]
    exact h.unwritten a b hab hb absent.1

/-- Both cells of a pair hold the same value. -/
theorem symmetric (h : Holds m n diagonal elsewhere entries) {i j : Nat} (hi : i < n)
    (hj : j < n) : m.get? i j = m.get? j i := by
  have ordered : ∀ a b, a < b → b < n → m.get? a b = m.get? b a := by
    intro a b hab hb
    by_cases mem : (a, b) ∈ entries.map Prod.fst
    · obtain ⟨⟨place, value⟩, mem, rfl⟩ := List.mem_map.1 mem
      obtain ⟨first, second⟩ := h.written a b value mem
      rw [first, second]
    · obtain ⟨first, second⟩ := h.unwritten a b hab hb mem
      rw [first, second]
  rcases Nat.lt_trichotomy i j with hij | rfl | hij
  · exact ordered i j hij hj
  · rfl
  · exact (ordered j i hij hi).symm

/-- The entries determine the matrix, whatever order they come in. -/
theorem eq_of_perm {m' : SymmetricMatrix α} {entries' : List ((Nat × Nat) × α)}
    (h : Holds m n diagonal elsewhere entries) (h' : Holds m' n diagonal elsewhere entries')
    (perm : entries.Perm entries') : m = m' := by
  have ordered : ∀ a b, a < b → b < n → m.get? a b = m'.get? a b := by
    intro a b hab hb
    by_cases mem : (a, b) ∈ entries.map Prod.fst
    · obtain ⟨⟨place, value⟩, mem, rfl⟩ := List.mem_map.1 mem
      rw [(h.written a b value mem).1, (h'.written a b value (perm.mem_iff.1 mem)).1]
    · have mem' : (a, b) ∉ entries'.map Prod.fst := fun mem' =>
        mem ((perm.map Prod.fst).mem_iff.2 mem')
      rw [(h.unwritten a b hab hb mem).1, (h'.unwritten a b hab hb mem').1]
  refine ext_get? h.square h'.square (h'.size_eq.trans h.size_eq.symm) ?_
  intro i j hi hj
  rw [h.size_eq] at hi hj
  rcases Nat.lt_trichotomy i j with hij | rfl | hij
  · exact ordered i j hij hj
  · rw [h.onDiagonal i hi, h'.onDiagonal i hi]
  · rw [h.symmetric hi hj, h'.symmetric hi hj]
    exact ordered j i hij hi

end Holds

end Holding

end SymmetricMatrix
end Likeness
