import Likeness.Binary64

/-!
# Symmetric matrices

A square table of scores for pairs, kept row after row in one array.  Every write goes to the
cell of a pair and to that of the reversed pair.

An index pair addresses one place of the array, and is refused exactly when that place lies
behind the end.  A write whose second cell is refused has written the first one already;
`set` then reports the matrix that is left behind.
-/

namespace Likeness

/-- A square table in one array, row after row. -/
structure SymmetricMatrix (α : Type) where
  size : Nat
  cells : Array α
deriving DecidableEq, Repr, Inhabited

namespace SymmetricMatrix

variable {α : Type}

/-- A table with one value on the diagonal and another elsewhere. -/
def filled (size : Nat) (diagonal elsewhere : α) : SymmetricMatrix α :=
  ⟨size, Array.ofFn (n := size * size)
    (fun k => if k.val / size = k.val % size then diagonal else elsewhere)⟩

def get? (m : SymmetricMatrix α) (i j : Nat) : Option α :=
  m.cells[i * m.size + j]?

/-- Writes the cell of one ordered pair. -/
def write? (m : SymmetricMatrix α) (i j : Nat) (value : α) : Option (SymmetricMatrix α) :=
  if h : i * m.size + j < m.cells.size then
    some ⟨m.size, m.cells.set (i * m.size + j) value h⟩
  else none

/-- Writes the cells of a pair and of the reversed pair.  A failure holds the matrix that is
left behind. -/
def set (m : SymmetricMatrix α) (i j : Nat) (value : α) :
    Except (SymmetricMatrix α) (SymmetricMatrix α) :=
  match m.write? i j value with
  | none => .error m
  | some m =>
      match m.write? j i value with
      | none => .error m
      | some m => .ok m

def row? (m : SymmetricMatrix α) (i : Nat) : Option (List α) :=
  if (i + 1) * m.size ≤ m.cells.size then
    some (m.cells.extract (i * m.size) ((i + 1) * m.size)).toList
  else none

/-- All rows, if the array holds as many. -/
def rows? (m : SymmetricMatrix α) : Option (List (List α)) :=
  (List.range m.size).mapM m.row?

end SymmetricMatrix

/-- Similarities of pairs: one on the diagonal, zero until a pair is written. -/
def similarityMatrix (size : Nat) : SymmetricMatrix Binary64 :=
  .filled size .one .zero

/-- Distances of pairs: zero on the diagonal and until a pair is written. -/
def distanceMatrix (size : Nat) : SymmetricMatrix Nat :=
  .filled size 0 0

end Likeness
