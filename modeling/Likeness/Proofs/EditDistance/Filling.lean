import Likeness.EditDistance.Table
import Likeness.Proofs.EditDistance.Listing

/-!
# What the distance tables hold

The rows and columns of both tables stand for initial parts of two forests.  A table is filled
cell by cell, so that at each moment some of its cells hold the value of the recurrence for
the initial parts they stand for.  Each step reads such cells only and adds one to them, and
no step leaves the table.

**Main statements.**
* `EditDistance.repeatFrom_spec`: an invariant that every step keeps holds in the end.
* `EditDistance.forestDistance?_spec`: the table of the forests below two positions ends with
  their distance.
* `EditDistance.distance?_eq`: the distance table ends with the distance of the two outlines.
* `editDistance_eq`: the edit distance of two trees is the distance of their outlines.
-/

namespace Likeness
namespace EditDistance

open Grove

section Steps

/-- What every step keeps holds in the end, and no step is refused. -/
theorem repeatFrom_spec {α : Type} (step : Nat → α → Option α) (inv : Nat → α → Prop)
    (first count : Nat) (state : α) (start : inv first state)
    (keep : ∀ k state, first ≤ k → k < first + count → inv k state →
      ∃ state', step k state = some state' ∧ inv (k + 1) state') :
    ∃ state', repeatFrom step first count state = some state' ∧ inv (first + count) state' := by
  induction count generalizing first state with
  | zero => exact ⟨state, by rw [repeatFrom], start⟩
  | succ count ih =>
      obtain ⟨next, hnext, hinv⟩ := keep first state (Nat.le_refl _) (by omega) start
      obtain ⟨last, hlast, hend⟩ := ih (first + 1) next hinv
        (fun k state le lt => keep k state (by omega) (by omega))
      refine ⟨last, ?_, ?_⟩
      · rw [repeatFrom, hnext]
        exact hlast
      · rwa [Nat.add_right_comm] at hend

theorem repeatFrom_succ {α : Type} (step : Nat → α → Option α) (first count : Nat) (state : α) :
    repeatFrom step first (count + 1) state
      = (repeatFrom step first count state).bind (step (first + count)) := by
  induction count generalizing first state with
  | zero =>
      simp only [repeatFrom, Option.bind_some, Nat.add_zero]
      cases step first state <;> rfl
  | succ count ih =>
      rw [repeatFrom]
      cases h : step first state with
      | none =>
          simp only [repeatFrom, h, Option.bind_none]
      | some next =>
          simp only [ih (first + 1) next]
          rw [repeatFrom, h, Nat.add_right_comm, Nat.add_assoc]

theorem write?_eq {cells : Array Nat} {place : Nat} (value : Nat)
    (h : place < cells.size) :
    write? cells place value = some (cells.set place value h) :=
  dif_pos h

/-- Two places in one table are the same only if rows and columns are. -/
theorem cell_inj {width x y x' y' : Nat} (hy : y < width) (hy' : y' < width)
    (h : x * width + y = x' * width + y') : x = x' ∧ y = y' := by
  have pos : 0 < width := Nat.lt_of_le_of_lt (Nat.zero_le y) hy
  have hdiv := congrArg (· / width) h
  simp only [Nat.mul_comm _ width, Nat.mul_add_div pos, Nat.div_eq_of_lt hy,
    Nat.div_eq_of_lt hy', Nat.add_zero] at hdiv
  subst hdiv
  exact ⟨rfl, Nat.add_left_cancel h⟩

theorem cell_lt {rows width x y : Nat} (hx : x < rows) (hy : y < width) :
    x * width + y < rows * width :=
  calc x * width + y < x * width + width := Nat.add_lt_add_left hy _
    _ = (x + 1) * width := (Nat.succ_mul x width).symm
    _ ≤ rows * width := Nat.mul_le_mul_right width hx

end Steps

section Differences

variable {α : Type} (m : Nat) (W : Grove α) (p : α) (U : Grove α)

theorem minus?_succ_add (k : Nat) : minus? (m + 1 + k) 1 = some (m + k) := by
  rw [Nat.add_right_comm, minus?_add_one]

theorem minus?_size_node : minus? (node W p U).size 1 = some (W ++ U).size := by
  rw [size_node_eq, minus?_add_one]

theorem minus?_add_size_node :
    minus? (m + (node W p U).size) 1 = some (m + (W ++ U).size) := by
  rw [size_node_eq, ← Nat.add_assoc, minus?_add_one]

theorem minus?_size_append : minus? ((W ++ U).size + 1) (W.size + 1) = some U.size := by
  rw [minus?_eq_some, size_append_sub, size_append]
  omega

end Differences

section Filling

variable {α : Type}

/-- The cells at the known places of a table hold the value of `f` for the two initial parts
that their rows and columns stand for. -/
structure Filled (f : Grove α → Grove α → Nat) (X Y : Grove α) (known : Nat → Nat → Prop)
    (cells : Array Nat) : Prop where
  fits : (X.size + 1) * (Y.size + 1) ≤ cells.size
  read : ∀ {X' Y' : Grove α}, Initial X' X → Initial Y' Y → known X'.size Y'.size →
    cells[X'.size * (Y.size + 1) + Y'.size]? = some (f X' Y')

namespace Filled

variable {f : Grove α → Grove α → Nat} {X Y : Grove α} {known : Nat → Nat → Prop}
  {cells : Array Nat}

theorem mono (h : Filled f X Y known cells) {known' : Nat → Nat → Prop}
    (le : ∀ x y, x ≤ X.size → y ≤ Y.size → known' x y → known x y) :
    Filled f X Y known' cells :=
  ⟨h.fits, fun hX hY k => h.read hX hY (le _ _ hX.size_le hY.size_le k)⟩

/-- Writing the value of the recurrence makes one more place known. -/
theorem write (h : Filled f X Y known cells) {X' Y' : Grove α} (hX : Initial X' X)
    (hY : Initial Y' Y) :
    ∃ cells', write? cells (X'.size * (Y.size + 1) + Y'.size) (f X' Y') = some cells'
      ∧ cells'.size = cells.size
      ∧ Filled f X Y (fun x y => known x y ∨ x = X'.size ∧ y = Y'.size) cells' := by
  have inside : X'.size * (Y.size + 1) + Y'.size < cells.size :=
    Nat.lt_of_lt_of_le (cell_lt (Nat.lt_succ_of_le hX.size_le) (Nat.lt_succ_of_le hY.size_le))
      h.fits
  refine ⟨_, write?_eq _ inside, by rw [Array.size_set], by rw [Array.size_set]; exact h.fits,
    ?_⟩
  intro X'' Y'' hX' hY' k
  rw [Array.getElem?_set]
  by_cases same : X'.size * (Y.size + 1) + Y'.size = X''.size * (Y.size + 1) + Y''.size
  · obtain ⟨hx, hy⟩ := cell_inj (Nat.lt_succ_of_le hY.size_le)
      (Nat.lt_succ_of_le hY'.size_le) same
    obtain rfl := hX.eq_of_size hX' hx
    obtain rfl := hY.eq_of_size hY' hy
    exact if_pos rfl
  · rw [if_neg same]
    rcases k with k | ⟨hx, hy⟩
    · exact h.read hX' hY' k
    · rw [hx, hy] at same
      exact absurd rfl same

/-- Known cells can be read within the window of the table. -/
theorem readWithin (h : Filled f X Y known cells) {X' Y' : Grove α} (hX : Initial X' X)
    (hY : Initial Y' Y) (k : known X'.size Y'.size) :
    readWithin? ((X.size + 1) * (Y.size + 1)) cells (X'.size * (Y.size + 1) + Y'.size)
      = some (f X' Y') := by
  rw [readWithin?_eq (cell_lt (Nat.lt_succ_of_le hX.size_le) (Nat.lt_succ_of_le hY.size_le))]
  exact h.read hX hY k

/-- Cells of the table can be written within its window. -/
theorem writeWithin (h : Filled f X Y known cells) {X' Y' : Grove α} (hX : Initial X' X)
    (hY : Initial Y' Y) :
    ∃ cells', writeWithin? ((X.size + 1) * (Y.size + 1)) cells
        (X'.size * (Y.size + 1) + Y'.size) (f X' Y') = some cells'
      ∧ cells'.size = cells.size
      ∧ Filled f X Y (fun x y => known x y ∨ x = X'.size ∧ y = Y'.size) cells' := by
  rw [writeWithin?_eq (cell_lt (Nat.lt_succ_of_le hX.size_le) (Nat.lt_succ_of_le hY.size_le))]
  exact h.write hX hY

end Filled

section Borders

variable {index s t : Index} {Z Z' : Grove Label}

theorem deletionAt?_eq (lists : index.Lists Z) {k : Nat} (pos : 1 ≤ k) (le : k ≤ Z.size) :
    deletionAt? index k = some deletion := by
  obtain ⟨tree, found⟩ := lists.exists_node pos le
  rw [deletionAt?, found]
  rfl

theorem insertionAt?_eq (lists : index.Lists Z) {k : Nat} (pos : 1 ≤ k) (le : k ≤ Z.size) :
    insertionAt? index k = some insertion := by
  obtain ⟨tree, found⟩ := lists.exists_node pos le
  rw [insertionAt?, found]
  rfl

variable {f : Grove α → Grove α → Nat} {X Y : Grove α} {cells : Array Nat} {m n : Nat}

/-- The first column is filled with what is removed on the left. -/
theorem firstColumn_spec (hs : s.Lists Z) (le : m + X.size ≤ Z.size)
    (f_nil : ∀ X, f X nil = X.size) (h : Filled f X Y (fun x y => x = 0 ∧ y = 0) cells) :
    ∃ cells', repeatFrom (columnCell s ⟨m + 1, n + 1, X.size + 1, Y.size + 1⟩) 1 X.size cells
        = some cells'
      ∧ cells'.size = cells.size ∧ Filled f X Y (fun _ y => y = 0) cells' := by
  obtain ⟨cells', hcells, size, filled⟩ := repeatFrom_spec
    (columnCell s ⟨m + 1, n + 1, X.size + 1, Y.size + 1⟩)
    (fun k table => table.size = cells.size ∧ Filled f X Y (fun x y => x < k ∧ y = 0) table)
    1 X.size cells ⟨rfl, h.mono (by intro x y _ _ hxy; omega)⟩ (by
      rintro k table le' lt ⟨size, filled⟩
      obtain ⟨W, p, U, hX, rfl⟩ := Initial.exists_node_of_size X le' (by omega)
      have above := filled.readWithin hX.of_node (Initial.of_nil Y)
        ⟨by rw [size_node_eq]; exact Nat.lt_succ_self _, rfl⟩
      obtain ⟨table', hwrite, size', filled'⟩ := filled.writeWithin hX (Initial.of_nil Y)
      refine ⟨table', ?_, size'.trans size, filled'.mono ?_⟩
      · have cost := deletionAt?_eq hs (k := m + (node W p U).size) (by omega) (by omega)
        have value : f (node W p U) nil = f (W ++ U) nil + deletion := by
          rw [f_nil, f_nil, size_node_eq, deletion]
        rw [value] at hwrite
        simp only [size_nil, Nat.add_zero] at above hwrite
        simp only [columnCell, Span.area, minus?_succ_add, cost, minus?_size_node, above, bind,
          Option.bind]
        exact hwrite
      · intro x y _ _ hxy
        simp only [size_nil] at hxy ⊢
        omega)
  exact ⟨cells', hcells, size, filled.mono (by intro x y le _ hxy; omega)⟩

/-- The first row is filled with what is removed on the right. -/
theorem firstRow_spec (ht : t.Lists Z') (le : n + Y.size ≤ Z'.size)
    (f_nil : ∀ Y, f nil Y = Y.size) (h : Filled f X Y (fun _ y => y = 0) cells) :
    ∃ cells', repeatFrom (rowCell t ⟨m + 1, n + 1, X.size + 1, Y.size + 1⟩) 1 Y.size cells
        = some cells'
      ∧ cells'.size = cells.size ∧ Filled f X Y (fun x y => x = 0 ∨ y = 0) cells' := by
  obtain ⟨cells', hcells, size, filled⟩ := repeatFrom_spec
    (rowCell t ⟨m + 1, n + 1, X.size + 1, Y.size + 1⟩)
    (fun k table => table.size = cells.size
      ∧ Filled f X Y (fun x y => y = 0 ∨ x = 0 ∧ y < k) table)
    1 Y.size cells ⟨rfl, h.mono (by intro x y _ _ hxy; omega)⟩ (by
      rintro k table le' lt ⟨size, filled⟩
      obtain ⟨V, q, S, hY, rfl⟩ := Initial.exists_node_of_size Y le' (by omega)
      have left := filled.readWithin (Initial.of_nil X) hY.of_node
        (Or.inr ⟨rfl, by rw [size_node_eq]; exact Nat.lt_succ_self _⟩)
      obtain ⟨table', hwrite, size', filled'⟩ := filled.writeWithin (Initial.of_nil X) hY
      refine ⟨table', ?_, size'.trans size, filled'.mono ?_⟩
      · have cost := insertionAt?_eq ht (k := n + (node V q S).size) (by omega) (by omega)
        have value : f nil (node V q S) = f nil (V ++ S) + insertion := by
          rw [f_nil, f_nil, size_node_eq, insertion]
        rw [value] at hwrite
        simp only [size_nil, Nat.zero_mul, Nat.zero_add] at left hwrite
        simp only [rowCell, Span.area, minus?_succ_add, cost, minus?_size_node, left, bind,
          Option.bind]
        exact hwrite
      · intro x y _ _ hxy
        simp only [size_nil] at hxy ⊢
        omega)
  exact ⟨cells', hcells, size, filled.mono (by intro x y _ le hxy; omega)⟩

/-- The first column and the first row are filled with what is removed. -/
theorem borders?_spec (hs : s.Lists Z) (ht : t.Lists Z') (leS : m + X.size ≤ Z.size)
    (leT : n + Y.size ≤ Z'.size) (f_nil_right : ∀ X, f X nil = X.size)
    (f_nil_left : ∀ Y, f nil Y = Y.size)
    (h : Filled f X Y (fun x y => x = 0 ∧ y = 0) cells) :
    ∃ cells', borders? s t ⟨m + 1, n + 1, X.size + 1, Y.size + 1⟩ cells = some cells'
      ∧ cells'.size = cells.size ∧ Filled f X Y (fun x y => x = 0 ∨ y = 0) cells' := by
  obtain ⟨cells₁, hcolumn, size₁, filled₁⟩ := firstColumn_spec (n := n) hs leS f_nil_right h
  obtain ⟨cells₂, hrow, size₂, filled₂⟩ := firstRow_spec (m := m) ht leT f_nil_left filled₁
  refine ⟨cells₂, ?_, size₂.trans size₁, filled₂⟩
  simp only [borders?, Nat.add_sub_cancel, hcolumn, hrow, bind, Option.bind]

end Borders

end Filling

section Forests

/-- The distance table holds the distances of everything up to two nodes that stand below two
roots, `W` and `V` being what stands before these roots. -/
def Settled (table : Array Nat) (width : Nat) (W V U S : Grove Label) : Prop :=
  ∀ ⦃U₁ U₂ S₁ S₂ : Grove Label⦄ ⦃u v : Label⦄, Initial (node U₁ u U₂) U →
    Initial (node S₁ v S₂) S →
    table[(W.size + (node U₁ u U₂).size) * width + (V.size + (node S₁ v S₂).size)]?
      = some (distance (W ++ node U₁ u U₂) (V ++ node S₁ v S₂))

theorem Filled.settled {X Y W V U S : Grove Label} {p q : Label} {known : Nat → Nat → Prop}
    {table : Array Nat} (filled : Filled distance X Y known table)
    (hX : Initial (node W p U) X) (hY : Initial (node V q S) Y)
    (all : ∀ x y, x ≤ W.size + U.size → y ≤ Y.size → known x y) :
    Settled table (Y.size + 1) W V U S := by
  intro U₁ U₂ S₁ S₂ u v hU hS
  have onX := hX.of_node_append hU
  have onY := hY.of_node_append hS
  have le := (hU.append_left W).size_le
  rw [size_append W U] at le
  have cell := filled.read onX onY (all _ _ le onY.size_le)
  rwa [size_append, size_append] at cell

variable {s t : Index} {X Y W V U S : Grove Label} {p q : Label} {table : Array Nat}
  (hs : s.Lists X) (ht : t.Lists Y) (hX : Initial (node W p U) X)
  (hY : Initial (node V q S) Y)
include hs ht hX hY

theorem span?_eq : span? s t (node W p U).size (node V q S).size
    = some ⟨W.size + 1, V.size + 1, U.size + 1, S.size + 1⟩ := by
  rw [span?, (hs.read hX).2, (ht.read hY).2, size_node_eq, size_node_eq]
  simp only [bind, Option.bind, minus?_size_append, pure]

variable (known : Settled table (Y.size + 1) W V U S)
include known

omit hs hX in
/-- A cell of the table of two forests. -/
theorem forestCell_spec {U₁ U₂ S₁ S₂ : Grove Label} {u v : Label}
    (hU : Initial (node U₁ u U₂) U) (hS : Initial (node S₁ v S₂) S) {forest : Array Nat}
    (filled : Filled (distanceBelow W V) U S
      (fun x y => x = 0 ∨ y = 0 ∨ x < (node U₁ u U₂).size
        ∨ x = (node U₁ u U₂).size ∧ y < (node S₁ v S₂).size) forest) :
    ∃ forest', forestCell t table (Y.size + 1)
        ⟨W.size + 1, V.size + 1, U.size + 1, S.size + 1⟩ (W.size + (node U₁ u U₂).size)
        U₁.size deletion ((node U₁ u U₂).size * (S.size + 1))
        ((U₁ ++ U₂).size * (S.size + 1)) (node S₁ v S₂).size forest = some forest'
      ∧ forest'.size = forest.size
      ∧ Filled (distanceBelow W V) U S
        (fun x y => x = 0 ∨ y = 0 ∨ x < (node U₁ u U₂).size
          ∨ x = (node U₁ u U₂).size ∧ y < (node S₁ v S₂).size + 1) forest' := by
  have onY : Initial (node (V ++ S₁) v S₂) Y := hY.of_node_append hS
  have hup := filled.readWithin hU.of_node hS
    (by rw [size_node_eq U₁]; omega)
  have hleft := filled.readWithin hU hS.of_node
    (by rw [size_node_eq S₁]; omega)
  have hbefore := filled.readWithin hU.of_node_before hS.of_node_before
    (by simp only [size_node]; omega)
  obtain ⟨forest', hwrite, size, filled'⟩ := filled.writeWithin hU hS
  refine ⟨forest', ?_, size, filled'.mono (by intro x y _ _ hxy; omega)⟩
  have place : V.size + (node S₁ v S₂).size = (node (V ++ S₁) v S₂).size :=
    (size_append V (node S₁ v S₂)).symm
  have hleaf : t.leftmost? (V.size + (node S₁ v S₂).size) = some ((V ++ S₁).size + 1) := by
    rw [place]
    exact (ht.read onY).2
  have hcost : insertionAt? t (V.size + (node S₁ v S₂).size) = some insertion :=
    insertionAt?_eq ht (by rw [size_node]; omega) (by rw [place]; exact onY.size_le)
  rw [distanceBelow] at hwrite
  simp only [forestCell, Span.area, minus?_succ_add, hleaf, minus?_size_append, hup,
    minus?_add_size_node, hleft, hcost, hbefore, known hU hS, bind, Option.bind]
  exact hwrite

/-- A row of the table of two forests. -/
theorem forestRow_spec {U₁ U₂ : Grove Label} {u : Label} (hU : Initial (node U₁ u U₂) U)
    {forest : Array Nat}
    (filled : Filled (distanceBelow W V) U S
      (fun x y => x = 0 ∨ y = 0 ∨ x < (node U₁ u U₂).size) forest) :
    ∃ forest', forestRow s t table (Y.size + 1)
        ⟨W.size + 1, V.size + 1, U.size + 1, S.size + 1⟩ (node U₁ u U₂).size forest
          = some forest'
      ∧ forest'.size = forest.size
      ∧ Filled (distanceBelow W V) U S
        (fun x y => x = 0 ∨ y = 0 ∨ x < (node U₁ u U₂).size + 1) forest' := by
  have onX : Initial (node (W ++ U₁) u U₂) X := hX.of_node_append hU
  obtain ⟨forest', hrow, size, filled'⟩ := repeatFrom_spec
    (forestCell t table (Y.size + 1) ⟨W.size + 1, V.size + 1, U.size + 1, S.size + 1⟩
      (W.size + (node U₁ u U₂).size) U₁.size deletion ((node U₁ u U₂).size * (S.size + 1))
      ((U₁ ++ U₂).size * (S.size + 1)))
    (fun k forest' => forest'.size = forest.size
      ∧ Filled (distanceBelow W V) U S (fun x y => x = 0 ∨ y = 0 ∨ x < (node U₁ u U₂).size
          ∨ x = (node U₁ u U₂).size ∧ y < k) forest')
    1 S.size forest ⟨rfl, filled.mono (by intro x y _ _ hxy; omega)⟩ (by
      rintro k forest' le lt ⟨size, filled⟩
      obtain ⟨S₁, v, S₂, hS, rfl⟩ := Initial.exists_node_of_size S le (by omega)
      obtain ⟨forest'', hcell, size', filled'⟩ := forestCell_spec ht hY known hU hS filled
      exact ⟨forest'', hcell, size'.trans size, filled'⟩)
  refine ⟨forest', ?_, size, filled'.mono (by intro x y _ le hxy; omega)⟩
  have place : W.size + (node U₁ u U₂).size = (node (W ++ U₁) u U₂).size :=
    (size_append W (node U₁ u U₂)).symm
  have hleaf : s.leftmost? (W.size + (node U₁ u U₂).size) = some ((W ++ U₁).size + 1) := by
    rw [place]
    exact (hs.read onX).2
  have hcost : deletionAt? s (W.size + (node U₁ u U₂).size) = some deletion :=
    deletionAt?_eq hs (by rw [size_node]; omega) (by rw [place]; exact onX.size_le)
  simp only [forestRow, minus?_succ_add, hleaf, minus?_size_append, hcost, minus?_size_node,
    Nat.add_sub_cancel, bind, Option.bind]
  exact hrow

/-- The table of the forests below two positions ends with their distance. -/
theorem forestDistance?_spec (scratch : Array Nat)
    (fits : (U.size + 1) * (S.size + 1) ≤ scratch.size) :
    ∃ forest, forestDistance? s t table (Y.size + 1) (node W p U).size (node V q S).size scratch
        = some (distanceBelow W V U S, forest)
      ∧ forest.size = scratch.size := by
  have window : 0 < (U.size + 1) * (S.size + 1) := Nat.mul_pos (by omega) (by omega)
  have inside : 0 < scratch.size := Nat.lt_of_lt_of_le window fits
  have corner : Filled (distanceBelow W V) U S (fun x y => x = 0 ∧ y = 0)
      (scratch.set 0 0 inside) := by
    refine ⟨by rwa [Array.size_set], ?_⟩
    rintro U' S' - - ⟨hU, hS⟩
    rw [eq_nil_of_size hU, eq_nil_of_size hS]
    simp
  have leX := hX.size_le
  have leY := hY.size_le
  rw [size_node] at leX leY
  obtain ⟨forest₁, hborders, size₁, filled₁⟩ := borders?_spec (m := W.size) (n := V.size) hs ht
    (by omega) (by omega) (distanceBelow_nil_right W V) (distanceBelow_nil_left W V) corner
  obtain ⟨forest₂, hrows, size₂, filled₂⟩ := repeatFrom_spec
    (forestRow s t table (Y.size + 1) ⟨W.size + 1, V.size + 1, U.size + 1, S.size + 1⟩)
    (fun k forest => forest.size = scratch.size
      ∧ Filled (distanceBelow W V) U S (fun x y => x = 0 ∨ y = 0 ∨ x < k) forest)
    1 U.size forest₁
    ⟨by rw [size₁, Array.size_set], filled₁.mono (by intro x y _ _ hxy; omega)⟩ (by
      rintro k forest le lt ⟨size, filled⟩
      obtain ⟨U₁, u, U₂, hU, rfl⟩ := Initial.exists_node_of_size U le (by omega)
      obtain ⟨forest', hrow, size', filled'⟩ := forestRow_spec hs ht hX hY known hU filled
      exact ⟨forest', hrow, size'.trans size, filled'⟩)
  have hlast := filled₂.readWithin Initial.refl Initial.refl (by omega)
  have hcorner : minus? ((U.size + 1) * (S.size + 1)) 1
      = some (U.size * (S.size + 1) + S.size) := by
    rw [Nat.succ_mul, ← Nat.add_assoc, minus?_add_one]
  have hfits : minus? scratch.size ((U.size + 1) * (S.size + 1))
      = some (scratch.size - (U.size + 1) * (S.size + 1)) :=
    minus?_eq_some.2 ⟨fits, rfl⟩
  refine ⟨forest₂, ?_, size₂⟩
  simp only [forestDistance?, span?_eq hs ht hX hY, Span.area, hfits, writeWithin?_eq window,
    write?_eq 0 inside, hborders, hrows, hcorner, hlast, bind, Option.bind, Nat.add_sub_cancel,
    pure]

end Forests

section Prefixes

variable {s t : Index} {X Y : Grove Label} (hs : s.Lists X) (ht : t.Lists Y)
include hs ht

/-- A cell of the distance table. -/
theorem prefixCell_spec {W V U S : Grove Label} {p q : Label} (hX : Initial (node W p U) X)
    (hY : Initial (node V q S) Y) {work : Work}
    (fits : (X.size + 1) * (Y.size + 1) ≤ work.scratch.size)
    (filled : Filled distance X Y
      (fun x y => x = 0 ∨ y = 0 ∨ x < (node W p U).size
        ∨ x = (node W p U).size ∧ y < (node V q S).size) work.table) :
    ∃ work', prefixCell s t (Y.size + 1) (node W p U).size (node V q S).size work
        = some work'
      ∧ (X.size + 1) * (Y.size + 1) ≤ work'.scratch.size
      ∧ Filled distance X Y
        (fun x y => x = 0 ∨ y = 0 ∨ x < (node W p U).size
          ∨ x = (node W p U).size ∧ y < (node V q S).size + 1) work'.table := by
  obtain ⟨⟨nodeS, hnodeS, rfl⟩, hleftS⟩ := hs.read hX
  obtain ⟨⟨nodeT, hnodeT, rfl⟩, hleftT⟩ := ht.read hY
  have hup := filled.read hX.of_node hY
    (by rw [size_node_eq W]; omega)
  have hleft := filled.read hX hY.of_node
    (by rw [size_node_eq V]; omega)
  have hbefore := filled.read hX.of_node_before hY.of_node_before
    (by rw [size_node W]; omega)
  have leX := hX.size_le
  have leY := hY.size_le
  obtain ⟨scratch, hbelow, size⟩ := forestDistance?_spec hs ht hX hY
    (filled.settled hX hY (by intro x y le _; rw [size_node W]; omega)) work.scratch
    (Nat.le_trans (Nat.mul_le_mul (by simp only [size_node] at leX; omega)
      (by simp only [size_node] at leY; omega)) fits)
  obtain ⟨table, hwrite, -, filled'⟩ := filled.write hX hY
  refine ⟨⟨table, scratch⟩, ?_, by rwa [size], filled'.mono (by intro x y _ _ hxy; omega)⟩
  rw [distance, ← substitution_eq_relabel] at hwrite
  simp only [prefixCell, hnodeS, hnodeT, hleftS, hleftT, minus?_size_node, hup,
    minus?_add_size_node, hleft, hbelow, minus?_add_one, hbefore, nodeCost, deletion, insertion,
    hwrite, bind, Option.bind, pure]

/-- A row of the distance table. -/
theorem prefixRow_spec {W U : Grove Label} {p : Label} (hX : Initial (node W p U) X)
    {work : Work} (fits : (X.size + 1) * (Y.size + 1) ≤ work.scratch.size)
    (filled : Filled distance X Y (fun x y => x = 0 ∨ y = 0 ∨ x < (node W p U).size)
      work.table) :
    ∃ work', prefixRow s t (Y.size + 1) (node W p U).size work = some work'
      ∧ (X.size + 1) * (Y.size + 1) ≤ work'.scratch.size
      ∧ Filled distance X Y (fun x y => x = 0 ∨ y = 0 ∨ x < (node W p U).size + 1)
        work'.table := by
  obtain ⟨work', hrow, fits', filled'⟩ := repeatFrom_spec
    (prefixCell s t (Y.size + 1) (node W p U).size)
    (fun k work => (X.size + 1) * (Y.size + 1) ≤ work.scratch.size
      ∧ Filled distance X Y (fun x y => x = 0 ∨ y = 0
        ∨ x < (node W p U).size ∨ x = (node W p U).size ∧ y < k) work.table)
    1 Y.size work ⟨fits, filled.mono (by intro x y _ _ hxy; omega)⟩ (by
      rintro k work le lt ⟨fits, filled⟩
      obtain ⟨V, q, S, hY, rfl⟩ := Initial.exists_node_of_size Y le (by omega)
      exact prefixCell_spec hs ht hX hY fits filled)
  refine ⟨work', ?_, fits', filled'.mono (by intro x y _ _ hxy; omega)⟩
  rw [prefixRow, ht.size_eq]
  exact hrow

/-- The tables at the start of the walk over the positions. -/
theorem start?_spec :
    ∃ work, start? s t (Y.size + 1) = some work
      ∧ (X.size + 1) * (Y.size + 1) ≤ work.scratch.size
      ∧ Filled distance X Y (fun x y => x = 0 ∨ y = 0) work.table := by
  have corner : Filled distance X Y (fun x y => x = 0 ∧ y = 0)
      (Array.replicate ((X.size + 1) * (Y.size + 1)) 0) := by
    refine ⟨by simp, ?_⟩
    rintro X' Y' - - ⟨hX, hY⟩
    rw [eq_nil_of_size hX, eq_nil_of_size hY, size_nil, Nat.zero_mul,
      Array.getElem?_replicate, if_pos (Nat.mul_pos (Nat.succ_pos _) (Nat.succ_pos _))]
    simp
  obtain ⟨table, hborders, -, filled⟩ := borders?_spec (m := 0) (n := 0) hs ht (by omega)
    (by omega) distance_nil_right distance_nil_left corner
  refine ⟨⟨table, Array.replicate ((X.size + 1) * (Y.size + 1)) 0⟩, ?_, by simp, filled⟩
  simp only [start?, hs.size_eq, hborders, bind, Option.bind, pure]

/-- The tables after some whole rows. -/
theorem rows_spec {rows : Nat} (le : rows ≤ X.size) :
    ∃ work, (start? s t (Y.size + 1)).bind
        (repeatFrom (prefixRow s t (Y.size + 1)) 1 rows) = some work
      ∧ (X.size + 1) * (Y.size + 1) ≤ work.scratch.size
      ∧ Filled distance X Y (fun x y => x = 0 ∨ y = 0 ∨ x < 1 + rows) work.table := by
  obtain ⟨work, hstart, fits, filled⟩ := start?_spec hs ht
  obtain ⟨work', hrows, fits', filled'⟩ := repeatFrom_spec (prefixRow s t (Y.size + 1))
    (fun k work => (X.size + 1) * (Y.size + 1) ≤ work.scratch.size
      ∧ Filled distance X Y (fun x y => x = 0 ∨ y = 0 ∨ x < k) work.table)
    1 rows work ⟨fits, filled.mono (by intro x y _ _ hxy; omega)⟩ (by
      rintro k work pos lt ⟨fits, filled⟩
      obtain ⟨W, p, U, hX, rfl⟩ := Initial.exists_node_of_size X pos (by omega)
      exact prefixRow_spec hs ht hX fits filled)
  refine ⟨work', ?_, fits', filled'⟩
  rw [hstart, Option.bind_some, hrows]

end Prefixes

section Whole

/-- The distance table ends with the distance of the two outlines. -/
theorem distance?_eq (a b : Tree) : distance? a b = some (distance a.outline b.outline) := by
  have hs := Index.lists_ofTree a
  have ht := Index.lists_ofTree b
  obtain ⟨work, hrows, -, filled⟩ := rows_spec hs ht (Nat.le_refl a.outline.size)
  have hlast := filled.read Initial.refl Initial.refl (by omega)
  calc distance? a b
      = ((start? (Index.ofTree a) (Index.ofTree b) (b.outline.size + 1)).bind
          (repeatFrom (prefixRow (Index.ofTree a) (Index.ofTree b) (b.outline.size + 1)) 1
            a.outline.size)).bind
          (fun work => work.table[a.outline.size * (b.outline.size + 1) + b.outline.size]?) := by
        rw [distance?, hs.size_eq, ht.size_eq, Option.bind_assoc]
        rfl
    _ = some (distance a.outline b.outline) := by
        rw [hrows]
        exact hlast

end Whole

end EditDistance

/-- The edit distance of two trees is the distance of their outlines. -/
theorem editDistance_eq (a b : Tree) :
    editDistance a b = Grove.distance a.outline b.outline := by
  rw [editDistance, EditDistance.distance?_eq, Option.getD_some]

end Likeness
