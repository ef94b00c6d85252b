import Likeness.Proofs.EditDistance.Filling
import Likeness.Proofs.EditDistance.Mapping

/-!
# The recurrence over post-order positions

The rows and columns of the distance table are counted.  Its entry for the first `i` nodes of one
tree and the first `j` nodes of the other is defined here by a recursion on these numbers, without
any table: `prefixDistance`.  The forests strictly below two nodes are compared by a recursion of
their own, `windowDistance`, which counts from the leftmost leaves of the two nodes and adds a
`prefixDistance` where it matches two nodes.

The flat tables hold what the recursion yields.  Every access to a table and every difference of
two numbers is checked by the computation, which stops at the first one that fails; so an answer
says that none has failed.

**Main statements.**
* `Index.node?_ofTree`, `Index.leftmost?_ofTree`: what the index finds at a position.
* `EditDistance.prefixDistance_eq`: the recursion over positions is the one over forests.
* `EditDistance.tables_follow_recurrence`: what the tables hold, call by call.
-/

namespace Likeness

section Positions

/-- The node at a post-order position, counted from one. -/
def Tree.nodeAt (tree : Tree) (k : Nat) : Tree :=
  tree.postorder.getD (k - 1) tree

/-- Position of the leftmost leaf below the node at a position: the nodes of a subtree take as
many positions, of which the root has the last one. -/
def Tree.leftmostAt (tree : Tree) (k : Nat) : Nat :=
  k + 1 - (tree.nodeAt k).size

theorem Tree.leftmostAt_le (tree : Tree) (k : Nat) : tree.leftmostAt k ≤ k := by
  have pos := (tree.nodeAt k).size_pos
  rw [Tree.leftmostAt]
  omega

open Grove in
theorem Grove.Occupies.of_initial {nodes : List Tree} {X W U : Grove Label} {p : Label}
    {first : Nat} (h : Occupies nodes first X) (part : Initial (node W p U) X) :
    ∃ tree, nodes[first + W.size + U.size]? = some tree ∧ tree.label = p
      ∧ tree.size = U.size + 1 := by
  induction part with
  | refl => exact h.2.2
  | step _ ih => exact ih (occupies_append.2 ⟨h.1, h.2.1⟩)

open Grove in
theorem Tree.nodeAt_spec {tree : Tree} {W U : Grove Label} {p : Label}
    (part : Initial (node W p U) tree.outline) :
    (tree.nodeAt (node W p U).size).label = p
      ∧ tree.leftmostAt (node W p U).size = W.size + 1 := by
  obtain ⟨found, place, label, size⟩ := (occupies_outline tree).of_initial part
  have at? : tree.nodeAt (node W p U).size = found := by
    rw [Tree.nodeAt, List.getD_eq_getElem?_getD, size_node, Nat.add_sub_cancel]
    rw [Nat.zero_add] at place
    rw [place, Option.getD_some]
  refine ⟨by rw [at?, label], ?_⟩
  rw [Tree.leftmostAt, at?, size, size_node]
  omega

end Positions

namespace Index

open Grove

variable (tree : Tree) {k : Nat} (pos : 1 ≤ k) (le : k ≤ tree.size)
include pos le

theorem node?_ofTree : (ofTree tree).node? k = some (tree.nodeAt k) := by
  obtain ⟨k, rfl⟩ := Nat.exists_eq_add_of_le' pos
  have inside : k < tree.postorder.length := by
    rw [Tree.length_postorder]
    omega
  rw [node?, ← Array.getElem?_toList, nodes_ofTree, Tree.nodeAt, Nat.add_sub_cancel,
    List.getD_eq_getElem?_getD, List.getElem?_eq_getElem inside, Option.getD_some]

theorem leftmost?_ofTree : (ofTree tree).leftmost? k = some (tree.leftmostAt k) := by
  obtain ⟨W, p, U, part, rfl⟩ := Initial.exists_node_of_size tree.outline pos
    (by rwa [Tree.size_outline])
  rw [((lists_ofTree tree).read part).2, (Tree.nodeAt_spec part).2]

end Index

namespace EditDistance

open Grove

section Recursion

mutual

/-- Distance of the first `i` nodes of one tree from the first `j` nodes of the other. -/
def prefixDistance (a b : Tree) : Nat → Nat → Nat
  | 0, j => j
  | i + 1, 0 => i + 1
  | i + 1, j + 1 =>
      min (min (prefixDistance a b i (j + 1) + 1) (prefixDistance a b (i + 1) j + 1))
        (prefixDistance a b (a.leftmostAt (i + 1) - 1) (b.leftmostAt (j + 1) - 1)
          + windowDistance a b (a.leftmostAt (i + 1)) (b.leftmostAt (j + 1))
              (i + 1 - a.leftmostAt (i + 1)) (j + 1 - b.leftmostAt (j + 1))
          + nodeCost (some (a.nodeAt (i + 1))) (some (b.nodeAt (j + 1))))
termination_by i j => 2 * (i + j)
decreasing_by
  · omega
  · omega
  · have leA := a.leftmostAt_le (i + 1)
    have leB := b.leftmostAt_le (j + 1)
    omega
  · have leA := a.leftmostAt_le (i + 1)
    have leB := b.leftmostAt_le (j + 1)
    omega

/-- Distance of the first `x` nodes from position `l` on from the first `y` nodes from position
`r` on. -/
def windowDistance (a b : Tree) (l r : Nat) : Nat → Nat → Nat
  | 0, y => y
  | x + 1, 0 => x + 1
  | x + 1, y + 1 =>
      min (min (windowDistance a b l r x (y + 1) + 1) (windowDistance a b l r (x + 1) y + 1))
        (windowDistance a b l r (a.leftmostAt (l + x) - l) (b.leftmostAt (r + y) - r)
          + prefixDistance a b (l + x) (r + y))
termination_by x y => 2 * (l + x + (r + y)) - 1
decreasing_by
  · omega
  · omega
  · have leA := a.leftmostAt_le (l + x)
    have leB := b.leftmostAt_le (r + y)
    omega
  · omega

end

/-- Distance of the forests strictly below the nodes at positions `i` and `j`. -/
def innerDistance (a b : Tree) (i j : Nat) : Nat :=
  windowDistance a b (a.leftmostAt i) (b.leftmostAt j) (i - a.leftmostAt i) (j - b.leftmostAt j)

end Recursion

section Agreement

variable {a b : Tree}

mutual

/-- The recursion over positions is the one over forests. -/
theorem prefixDistance_eq {X Y : Grove Label} (hX : Initial X a.outline)
    (hY : Initial Y b.outline) : prefixDistance a b X.size Y.size = distance X Y := by
  match X, Y with
  | nil, Y => rw [size_nil, prefixDistance, distance_nil_left]
  | node W p U, nil => rw [size_nil, size_node_eq, prefixDistance, distance_nil_right, size_node_eq]
  | node W p U, node V q S =>
      have hWU := hX.of_node
      have hVS := hY.of_node
      have up := prefixDistance_eq hWU hY
      have left := prefixDistance_eq hX hVS
      have before := prefixDistance_eq hX.of_node_before hY.of_node_before
      have below := windowDistance_eq hWU hVS
      obtain ⟨labelA, leafA⟩ := Tree.nodeAt_spec hX
      obtain ⟨labelB, leafB⟩ := Tree.nodeAt_spec hY
      rw [size_node_eq] at up left labelA leafA labelB leafB
      rw [size_node_eq, size_node_eq, prefixDistance, distance, up, left, leafA, leafB,
        size_append_sub, size_append_sub, Nat.add_sub_cancel, Nat.add_sub_cancel, before, below,
        nodeCost, substitution_eq_relabel, labelA, labelB]
termination_by 2 * (X.size + Y.size)
decreasing_by
  all_goals simp only [size_append, size_node]
  all_goals omega

theorem windowDistance_eq {W V U S : Grove Label} (hX : Initial (W ++ U) a.outline)
    (hY : Initial (V ++ S) b.outline) :
    windowDistance a b (W.size + 1) (V.size + 1) U.size S.size = distanceBelow W V U S := by
  match U, S with
  | nil, S => rw [size_nil, windowDistance, distanceBelow_nil_left]
  | node U₁ u U₂, nil =>
      rw [size_nil, size_node_eq, windowDistance, distanceBelow_nil_right, size_node_eq]
  | node U₁ u U₂, node S₁ v S₂ =>
      have hU : Initial (W ++ (U₁ ++ U₂)) a.outline :=
        ((Initial.step Initial.refl).append_left W).trans hX
      have hS : Initial (V ++ (S₁ ++ S₂)) b.outline :=
        ((Initial.step Initial.refl).append_left V).trans hY
      have up := windowDistance_eq hU hY
      have left := windowDistance_eq hX hS
      have before := windowDistance_eq (((Initial.before U₁ u U₂).append_left W).trans hX)
        (((Initial.before S₁ v S₂).append_left V).trans hY)
      have inner := prefixDistance_eq hX hY
      have leafA : a.leftmostAt (W ++ node U₁ u U₂).size = (W ++ U₁).size + 1 :=
        (Tree.nodeAt_spec hX).2
      have leafB : b.leftmostAt (V ++ node S₁ v S₂).size = (V ++ S₁).size + 1 :=
        (Tree.nodeAt_spec hY).2
      rw [size_append_node, size_append_node] at inner
      rw [size_append_node] at leafA leafB
      rw [size_node_eq] at up left
      rw [size_node_eq, size_node_eq, windowDistance, distanceBelow, up, left, leafA, leafB,
        size_append_sub, size_append_sub, before, inner]
termination_by 2 * (W.size + U.size + (V.size + S.size)) + 1
decreasing_by
  all_goals simp only [size_append, size_node]
  all_goals omega

end

theorem innerDistance_eq {W V U S : Grove Label} {p q : Label}
    (hX : Initial (node W p U) a.outline) (hY : Initial (node V q S) b.outline) :
    innerDistance a b (node W p U).size (node V q S).size = distanceBelow W V U S := by
  rw [innerDistance, (Tree.nodeAt_spec hX).2, (Tree.nodeAt_spec hY).2, size_node_eq, size_node_eq,
    size_append_sub, size_append_sub]
  exact windowDistance_eq hX.of_node hY.of_node

end Agreement

section Tables

/-- The tables after `rows` whole rows of the distance table and `cells` cells of the next one. -/
def workAfter? (a b : Tree) (rows cells : Nat) : Option Work := do
  let s := Index.ofTree a
  let t := Index.ofTree b
  let width := b.size + 1
  let work ← start? s t width
  let work ← repeatFrom (prefixRow s t width) 1 rows work
  repeatFrom (prefixCell s t width (rows + 1)) 1 cells work

/-- The known cells of a distance table hold the values of the recurrence. -/
def Holds (a b : Tree) (known : Nat → Nat → Prop) (table : Array Nat) : Prop :=
  ∀ x y, x ≤ a.size → y ≤ b.size → known x y →
    table[x * (b.size + 1) + y]? = some (prefixDistance a b x y)

/-- Two distance tables have the same cells for two nodes strictly below positions `i` and `j`. -/
def SameBelow (a b : Tree) (i j : Nat) (table table' : Array Nat) : Prop :=
  ∀ x y, a.leftmostAt i ≤ x → x < i → b.leftmostAt j ≤ y → y < j →
    table'[x * (b.size + 1) + y]? = table[x * (b.size + 1) + y]?

variable {a b : Tree}

theorem Filled.holds {known : Nat → Nat → Prop} {table : Array Nat}
    (filled : Filled distance a.outline b.outline known table) : Holds a b known table := by
  intro x y leX leY k
  obtain ⟨X, hX, rfl⟩ := Initial.exists_of_size a.outline (k := x) (by rwa [Tree.size_outline])
  obtain ⟨Y, hY, rfl⟩ := Initial.exists_of_size b.outline (k := y) (by rwa [Tree.size_outline])
  rw [prefixDistance_eq hX hY, ← Tree.size_outline b]
  exact filled.read hX hY k

theorem workAfter?_succ (rows cells : Nat) :
    workAfter? a b rows (cells + 1) = (workAfter? a b rows cells).bind
      (prefixCell (Index.ofTree a) (Index.ofTree b) (b.size + 1) (rows + 1) (cells + 1)) := by
  simp only [workAfter?, repeatFrom_succ, bind, Option.bind_assoc, Nat.add_comm 1]

theorem workAfter?_spec {rows cells : Nat} (leRows : rows ≤ a.size) (leCells : cells ≤ b.size)
    (more : 0 < cells → rows < a.size) :
    ∃ work, workAfter? a b rows cells = some work
      ∧ (a.size + 1) * (b.size + 1) ≤ work.scratch.size
      ∧ Filled distance a.outline b.outline
        (fun x y => x = 0 ∨ y = 0 ∨ x < rows + 1 ∨ x = rows + 1 ∧ y < 1 + cells) work.table := by
  have hs := Index.lists_ofTree a
  have ht := Index.lists_ofTree b
  rw [← Tree.size_outline a] at leRows more
  rw [← Tree.size_outline b] at leCells
  obtain ⟨work, hrows, fits, filled⟩ := rows_spec hs ht leRows
  obtain ⟨work', hcells, fits', filled'⟩ := repeatFrom_spec
    (prefixCell (Index.ofTree a) (Index.ofTree b) (b.outline.size + 1) (rows + 1))
    (fun k work => (a.outline.size + 1) * (b.outline.size + 1) ≤ work.scratch.size
      ∧ Filled distance a.outline b.outline (fun x y => x = 0 ∨ y = 0 ∨ x < rows + 1
        ∨ x = rows + 1 ∧ y < k) work.table)
    1 cells work ⟨fits, filled.mono (by intro x y _ _ hxy; omega)⟩ (by
      rintro k work pos lt ⟨fits, filled⟩
      obtain ⟨W, p, U, hX, sizeX⟩ := Initial.exists_node_of_size a.outline (k := rows + 1)
        (by omega) (more (by omega))
      obtain ⟨V, q, S, hY, rfl⟩ := Initial.exists_node_of_size b.outline pos (by omega)
      rw [← sizeX] at filled ⊢
      exact prefixCell_spec hs ht hX hY fits filled)
  rw [Tree.size_outline] at hrows hcells
  rw [Tree.size_outline, Tree.size_outline] at fits'
  refine ⟨work', ?_, fits', filled'⟩
  simp only [workAfter?, bind, ← Option.bind_assoc, hrows, Option.bind_some]
  exact hcells

theorem settled_of_cells {W V U S : Grove Label} {p q : Label} {table : Array Nat}
    (hX : Initial (node W p U) a.outline) (hY : Initial (node V q S) b.outline)
    (known : ∀ x y, W.size + 1 ≤ x → x < (node W p U).size → V.size + 1 ≤ y →
      y < (node V q S).size → table[x * (b.size + 1) + y]? = some (prefixDistance a b x y)) :
    Settled table (b.outline.size + 1) W V U S := by
  intro U₁ U₂ S₁ S₂ u v hU hS
  have leU := hU.size_le
  have leS := hS.size_le
  have onX := hX.of_node_append hU
  have onY := hY.of_node_append hS
  have cell := known (W ++ node U₁ u U₂).size (V ++ node S₁ v S₂).size
    (by rw [size_append_node]; omega) (by rw [size_append, size_node W]; omega)
    (by rw [size_append_node]; omega) (by rw [size_append, size_node V]; omega)
  rwa [prefixDistance_eq onX onY, size_append, size_append, ← Tree.size_outline b] at cell

/-- The comparison of the forests strictly below two positions yields the value of the recurrence,
whatever is left in the scratch array, if the table holds the values for the nodes below. -/
theorem forestDistance?_eq {i j : Nat} (posI : 1 ≤ i) (leI : i ≤ a.size) (posJ : 1 ≤ j)
    (leJ : j ≤ b.size) {table scratch : Array Nat}
    (known : ∀ x y, a.leftmostAt i ≤ x → x < i → b.leftmostAt j ≤ y → y < j →
      table[x * (b.size + 1) + y]? = some (prefixDistance a b x y))
    (fits : (i - a.leftmostAt i + 1) * (j - b.leftmostAt j + 1) ≤ scratch.size) :
    ∃ scratch', forestDistance? (Index.ofTree a) (Index.ofTree b) table (b.size + 1) i j scratch
        = some (innerDistance a b i j, scratch')
      ∧ scratch'.size = scratch.size := by
  obtain ⟨W, p, U, hX, rfl⟩ := Initial.exists_node_of_size a.outline posI
    (by rwa [Tree.size_outline])
  obtain ⟨V, q, S, hY, rfl⟩ := Initial.exists_node_of_size b.outline posJ
    (by rwa [Tree.size_outline])
  rw [(Tree.nodeAt_spec hX).2, (Tree.nodeAt_spec hY).2] at known fits
  rw [size_node_eq, size_node_eq, size_append_sub, size_append_sub] at fits
  obtain ⟨scratch', call, size⟩ := forestDistance?_spec (Index.lists_ofTree a)
    (Index.lists_ofTree b) hX hY (settled_of_cells hX hY known) scratch fits
  refine ⟨scratch', ?_, size⟩
  rw [innerDistance_eq hX hY, ← Tree.size_outline b]
  exact call

theorem distance?_eq_workAfter? (a b : Tree) :
    distance? a b = (workAfter? a b a.size 0).bind
      (fun work => work.table[a.size * (b.size + 1) + b.size]?) := by
  have sizeA := (Index.lists_ofTree a).size_eq
  have sizeB := (Index.lists_ofTree b).size_eq
  rw [Tree.size_outline] at sizeA sizeB
  simp only [distance?, workAfter?, sizeA, sizeB, repeatFrom, bind, Option.bind_assoc,
    Option.bind_some]

/-- The computation over flat tables follows the recurrence.

* The index finds the nodes and the leftmost leaves that the recurrence speaks of.
* The computation yields the distance of all nodes, and at the end every cell of its table holds
  the value of the recurrence.
* When the cell for positions `i + 1` and `j + 1` is about to be written, all cells before it hold
  their final values, and the scratch array is no smaller than the table.  The comparison of the
  forests strictly below the two positions then yields the same number whatever the scratch array
  holds, if the window fits, and whatever the table holds elsewhere than at two positions strictly
  below.

No step is ever refused: every access is inside its table, and no difference falls below zero. -/
theorem tables_follow_recurrence (a b : Tree) :
    (∀ tree ∈ [a, b], ∀ k, 1 ≤ k → k ≤ tree.size →
        (Index.ofTree tree).node? k = some (tree.nodeAt k)
          ∧ (Index.ofTree tree).leftmost? k = some (tree.leftmostAt k))
      ∧ distance? a b = some (prefixDistance a b a.size b.size)
      ∧ (distance? a b = (workAfter? a b a.size 0).bind
            (fun work => work.table[a.size * (b.size + 1) + b.size]?)
          ∧ ∃ work, workAfter? a b a.size 0 = some work ∧ Holds a b (fun _ _ => True) work.table)
      ∧ ∀ i < a.size, ∀ j < b.size, ∃ work, workAfter? a b i j = some work
          ∧ Holds a b (fun x y => y = 0 ∨ x < i + 1 ∨ x = i + 1 ∧ y < j + 1) work.table
          ∧ (a.size + 1) * (b.size + 1) ≤ work.scratch.size
          ∧ workAfter? a b i (j + 1)
              = prefixCell (Index.ofTree a) (Index.ofTree b) (b.size + 1) (i + 1) (j + 1) work
          ∧ ∀ table scratch, SameBelow a b (i + 1) (j + 1) work.table table →
              (i + 1 - a.leftmostAt (i + 1) + 1) * (j + 1 - b.leftmostAt (j + 1) + 1)
                ≤ scratch.size →
              ∃ scratch', forestDistance? (Index.ofTree a) (Index.ofTree b) table (b.size + 1)
                  (i + 1) (j + 1) scratch = some (innerDistance a b (i + 1) (j + 1), scratch')
                ∧ scratch'.size = scratch.size := by
  refine ⟨?_, ?_, ⟨distance?_eq_workAfter? a b, ?_⟩, ?_⟩
  · intro tree _ k pos le
    exact ⟨Index.node?_ofTree tree pos le, Index.leftmost?_ofTree tree pos le⟩
  · rw [distance?_eq, ← Tree.size_outline a, ← Tree.size_outline b,
      prefixDistance_eq Initial.refl Initial.refl]
  · obtain ⟨work, run, -, filled⟩ := workAfter?_spec (Nat.le_refl a.size) (Nat.zero_le b.size)
      (fun more => absurd more (Nat.lt_irrefl 0))
    refine ⟨work, run, Filled.holds (filled.mono ?_)⟩
    intro x y le _ _
    rw [Tree.size_outline] at le
    omega
  · intro i ltI j ltJ
    obtain ⟨work, run, large, filled⟩ := workAfter?_spec (Nat.le_of_lt ltI) (Nat.le_of_lt ltJ)
      (fun _ => ltI)
    have holds : Holds a b (fun x y => y = 0 ∨ x < i + 1 ∨ x = i + 1 ∧ y < j + 1) work.table :=
      (filled.mono (by intro x y _ _ hxy; omega)).holds
    refine ⟨work, run, holds, large, by rw [workAfter?_succ, run, Option.bind_some], ?_⟩
    intro table scratch same fits
    refine forestDistance?_eq (Nat.succ_pos i) ltI (Nat.succ_pos j) ltJ ?_ fits
    intro x y leX ltX leY ltY
    rw [same x y leX ltX leY ltY]
    exact holds x y (by omega) (by omega) (Or.inr (Or.inl ltX))

/-- A node before a nested one. -/
def nestedAfter (kind : String) : Tree :=
  .branch "r" [.leaf kind "", .branch "i" [.leaf "y" ""]]

/-- The last comparison of two forests, with a scratch array that is stale and just as large as the
window, and with a table that is cut off behind the last cell that is needed.  What differs before
the two nested nodes is counted three times. -/
theorem tables_follow_recurrence_stale :
    (3 < (nestedAfter "x").size ∧ 3 < (nestedAfter "z").size)
      ∧ ∃ work, workAfter? (nestedAfter "x") (nestedAfter "z") 3 3 = some work
        ∧ SameBelow (nestedAfter "x") (nestedAfter "z") 4 4 work.table (work.table.extract 0 19)
        ∧ ∃ scratch', forestDistance? (Index.ofTree (nestedAfter "x"))
            (Index.ofTree (nestedAfter "z")) (work.table.extract 0 19) 5 4 4
            (Array.replicate 16 7) = some (3, scratch') := by
  have sizes : (nestedAfter "x").size = 4 ∧ (nestedAfter "z").size = 4 := by decide
  refine ⟨by omega, ?_⟩
  obtain ⟨work, run, -, -, -, call⟩ := (tables_follow_recurrence (nestedAfter "x")
    (nestedAfter "z")).2.2.2 3 (by omega) 3 (by omega)
  have same : SameBelow (nestedAfter "x") (nestedAfter "z") 4 4 work.table
      (work.table.extract 0 19) := by
    intro x y _ ltX _ ltY
    rw [sizes.2, Array.getElem?_extract]
    split
    · rw [Nat.zero_add]
    · exact (Array.getElem?_eq_none (by omega)).symm
  obtain ⟨scratch', result, -⟩ := call _ (Array.replicate 16 7) same (by cbv)
  have value : innerDistance (nestedAfter "x") (nestedAfter "z") 4 4 = 3 := by cbv
  exact ⟨work, run, same, scratch', by rw [← value]; exact result⟩

end Tables

end EditDistance
end Likeness
