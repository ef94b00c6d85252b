import Likeness.EditDistance.Cost
import Likeness.EditDistance.Grid
import Likeness.Tree.Index

/-!
# The distance table

The distance of two trees is computed over their post-order positions.  The table holds,
for every `i` and `j`, the distance of the first `i` nodes of one tree from the first `j`
nodes of the other.  A cell is the least of three sums:

* delete node `i`, from the cell above;
* insert node `j`, from the cell to the left;
* match node `i` with node `j`: the cell for everything before the two subtrees, the
  distance of the two forests strictly below `i` and `j`, and the cost of the substitution.

The forests strictly below two nodes are compared in a second table, whose rows and columns
stand for the descendants of `i` and of `j`.  Its match term takes the cell for everything
before the two inner subtrees and adds the *table's* entry for the two inner positions.

The second table is rebuilt for every pair of positions in one scratch array, which only
grows stale in between: every cell that is read has been written for the same pair before.
Both tables are flat arrays.  `distance?` is `none` if the computation ever left them.
-/

namespace Likeness
namespace EditDistance

section Costs

/-- Cost of deleting the node at a position. -/
@[inline] def deletionAt? (s : Index) (k : Nat) : Option Nat :=
  (s.node? k).map (fun node => nodeCost (some node) none)

/-- Cost of inserting the node at a position. -/
@[inline] def insertionAt? (t : Index) (k : Nat) : Option Nat :=
  (t.node? k).map (fun node => nodeCost none (some node))

end Costs

section Borders

/-- The shape of a table of two forests: the positions of their first nodes, and one more
than their numbers of nodes. -/
structure Span where
  leftS : Nat
  leftT : Nat
  rows : Nat
  cols : Nat

/-- Number of cells of a table of this shape. -/
def Span.area (sp : Span) : Nat :=
  sp.rows * sp.cols

/-- Writes the first cell of row `x`: one more node is deleted. -/
def columnCell (s : Index) (sp : Span) (x : Nat) (cells : Array Nat) : Option (Array Nat) := do
  let px ← minus? (sp.leftS + x) 1
  let cost ← deletionAt? s px
  let above ← minus? x 1
  let up ← readWithin? sp.area cells (above * sp.cols)
  writeWithin? sp.area cells (x * sp.cols) (up + cost)

/-- Writes the cell of the first row in column `y`: one more node is inserted. -/
def rowCell (t : Index) (sp : Span) (y : Nat) (cells : Array Nat) : Option (Array Nat) := do
  let py ← minus? (sp.leftT + y) 1
  let cost ← insertionAt? t py
  let beside ← minus? y 1
  let left ← readWithin? sp.area cells beside
  writeWithin? sp.area cells y (left + cost)

/-- A table with its first column and its first row filled: nothing but deletions, and
nothing but insertions. -/
def borders? (s t : Index) (sp : Span) (cells : Array Nat) : Option (Array Nat) := do
  let cells ← repeatFrom (columnCell s sp) 1 (sp.rows - 1) cells
  repeatFrom (rowCell t sp) 1 (sp.cols - 1) cells

end Borders

section Forests

/-- The shape of the table of the forests strictly below positions `i` and `j`. -/
def span? (s t : Index) (i j : Nat) : Option Span := do
  let leftS ← s.leftmost? i
  let leftT ← t.leftmost? j
  let below ← minus? i leftS
  let beside ← minus? j leftT
  return ⟨leftS, leftT, below + 1, beside + 1⟩

/-- Writes the cell in row `x` and column `y` of the table of two forests.  Row `x` stands
for position `px`, whose leftmost leaf lies `lx` rows below the first one. -/
@[inline] def forestCell (t : Index) (table : Array Nat) (width : Nat) (sp : Span)
    (px lx cost row above : Nat) (y : Nat) (forest : Array Nat) : Option (Array Nat) := do
  let py ← minus? (sp.leftT + y) 1
  let leaf ← t.leftmost? py
  let ly ← minus? leaf sp.leftT
  let up ← readWithin? sp.area forest (above + y)
  let beside ← minus? (row + y) 1
  let left ← readWithin? sp.area forest beside
  let costY ← insertionAt? t py
  let before ← readWithin? sp.area forest (lx * sp.cols + ly)
  let inner ← table[px * width + py]?
  writeWithin? sp.area forest (row + y)
    (min (min (up + cost) (left + costY)) (before + inner))

/-- Writes row `x` of the table of two forests, its first cell excepted. -/
@[inline] def forestRow (s t : Index) (table : Array Nat) (width : Nat) (sp : Span)
    (x : Nat) (forest : Array Nat) : Option (Array Nat) := do
  let px ← minus? (sp.leftS + x) 1
  let leaf ← s.leftmost? px
  let lx ← minus? leaf sp.leftS
  let cost ← deletionAt? s px
  let above ← minus? x 1
  repeatFrom (forestCell t table width sp px lx cost (x * sp.cols) (above * sp.cols))
    1 (sp.cols - 1) forest

/-- Distance of the forests strictly below positions `i` and `j`, and the scratch array
as it is left behind. -/
def forestDistance? (s t : Index) (table : Array Nat) (width i j : Nat)
    (scratch : Array Nat) : Option (Nat × Array Nat) := do
  let sp ← span? s t i j
  -- the window must not be larger than the scratch array
  let _ ← minus? scratch.size sp.area
  let forest ← writeWithin? sp.area scratch 0 0
  let forest ← borders? s t sp forest
  let forest ← repeatFrom (forestRow s t table width sp) 1 (sp.rows - 1) forest
  let corner ← minus? sp.area 1
  let last ← readWithin? sp.area forest corner
  return (last, forest)

end Forests

section Prefixes

/-- The table so far and the scratch array. -/
structure Work where
  table : Array Nat
  scratch : Array Nat

/-- Writes the cell for the first `i` and the first `j` nodes. -/
def prefixCell (s t : Index) (width i : Nat) (j : Nat) (work : Work) : Option Work := do
  let nodeS ← s.node? i
  let nodeT ← t.node? j
  let leftS ← s.leftmost? i
  let leftT ← t.leftmost? j
  let ⟨table, scratch⟩ := work
  let above ← minus? i 1
  let up ← table[above * width + j]?
  let beside ← minus? (i * width + j) 1
  let left ← table[beside]?
  let (between, scratch) ← forestDistance? s t table width i j scratch
  let beforeS ← minus? leftS 1
  let beforeT ← minus? leftT 1
  let before ← table[beforeS * width + beforeT]?
  let matched := before + between + nodeCost (some nodeS) (some nodeT)
  let table ← write? table (i * width + j)
    (min (min (up + nodeCost (some nodeS) none) (left + nodeCost none (some nodeT))) matched)
  return ⟨table, scratch⟩

/-- Writes row `i` of the table, its first cell excepted. -/
def prefixRow (s t : Index) (width i : Nat) (work : Work) : Option Work :=
  repeatFrom (prefixCell s t width i) 1 t.size work

/-- The table with its borders filled, and a scratch array that is as large. -/
def start? (s t : Index) (width : Nat) : Option Work := do
  let cells := (s.size + 1) * width
  let table ← borders? s t ⟨1, 1, s.size + 1, width⟩ (Array.replicate cells 0)
  return ⟨table, Array.replicate cells 0⟩

/-- Distance of two trees, unless the computation leaves its tables. -/
def distance? (a b : Tree) : Option Nat := do
  let s := Index.ofTree a
  let t := Index.ofTree b
  let width := t.size + 1
  let work ← start? s t width
  let work ← repeatFrom (prefixRow s t width) 1 s.size work
  work.table[s.size * width + t.size]?

end Prefixes

end EditDistance

/-- Edit distance of two trees. -/
def editDistance (a b : Tree) : Nat :=
  (EditDistance.distance? a b).getD 0

/-- Edit distance of two trees either of which may be absent: an absent tree is as far from
another as that one has nodes. -/
def editDistance? : Option Tree → Option Tree → Nat
  | none, none => 0
  | some a, none => a.count
  | none, some b => b.count
  | some a, some b => editDistance a b

end Likeness
