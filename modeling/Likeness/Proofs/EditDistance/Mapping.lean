import Mathlib.Algebra.BigOperators.Group.Finset.Basic
import Mathlib.Order.Lattice.Nat
import Likeness.Proofs.EditDistance.LeastCost
import Likeness.Proofs.EditDistance.Outline

/-!
# Edit mappings

An edit mapping of two trees pairs some nodes of one with nodes of the other.  It is
one-to-one, and it keeps which node stands above which and which node stands to the left of
which.  Nodes are named by their post-order positions, counted from zero: the nodes below a
node come right before it, and all earlier ones stand to its left.

A mapping costs one for each node that it leaves out and a substitution for each pair.  The
least cost of a mapping is what the recurrence of `Grove.leastCost` computes.

**Main statements.**
* `Tree.exists_postorder_eq`: the subtree of a node takes the positions that end with it.
* `Grove.Joins.leastCost_le`: no mapping costs less.
* `Grove.exists_joins`: some mapping costs no more.
* `Tree.leastCost_eq`: the least cost of a mapping is that of the two outlines.
-/

namespace Likeness

section Positions

mutual

/-- The nodes of the subtree at a position are found at the positions that end there. -/
theorem Tree.exists_postorder_eq {tree node : Tree} {i : Nat}
    (h : tree.postorder[i]? = some node) :
    ∃ before after, tree.postorder = before ++ (node.postorder ++ after)
      ∧ i + 1 = before.length + node.size := by
  match tree with
  | ⟨kind, text, start?, stop?, children⟩ =>
      rw [Tree.postorder] at h ⊢
      by_cases inner : i < (Forest.postorder children).length
      · rw [List.getElem?_append_left inner] at h
        obtain ⟨before, after, eq, place⟩ := Forest.exists_postorder_eq h
        refine ⟨before, after ++ [⟨kind, text, start?, stop?, children⟩], ?_, place⟩
        rw [eq, List.append_assoc, List.append_assoc]
      · rw [List.getElem?_append_right (by omega), List.getElem?_singleton] at h
        split at h
        · obtain rfl := Option.some.inj h
          refine ⟨[], [], ?_, ?_⟩
          · rw [List.nil_append, List.append_nil, Tree.postorder]
          · rw [List.length_nil, Tree.size, ← Forest.length_postorder]
            omega
        · exact absurd h (by simp)

theorem Forest.exists_postorder_eq {forest : List Tree} {node : Tree} {i : Nat}
    (h : (Forest.postorder forest)[i]? = some node) :
    ∃ before after, Forest.postorder forest = before ++ (node.postorder ++ after)
      ∧ i + 1 = before.length + node.size := by
  match forest with
  | [] => simp [Forest.postorder] at h
  | tree :: rest =>
      rw [Forest.postorder] at h ⊢
      by_cases inner : i < tree.postorder.length
      · rw [List.getElem?_append_left inner] at h
        obtain ⟨before, after, eq, place⟩ := Tree.exists_postorder_eq h
        refine ⟨before, after ++ Forest.postorder rest, ?_, place⟩
        rw [eq, List.append_assoc, List.append_assoc]
      · rw [List.getElem?_append_right (by omega)] at h
        obtain ⟨before, after, eq, place⟩ := Forest.exists_postorder_eq h
        refine ⟨tree.postorder ++ before, after, ?_, ?_⟩
        · rw [eq, List.append_assoc]
        · rw [List.length_append]
          omega

end

/-- The node at position `i` stands above the node at position `k`. -/
def Tree.Above (tree : Tree) (i k : Nat) : Prop :=
  ∃ node, tree.postorder[i]? = some node ∧ k < i ∧ i < k + node.size

/-- The node at position `k` stands to the left of the node at position `i`. -/
def Tree.LeftOf (tree : Tree) (k i : Nat) : Prop :=
  ∃ node, tree.postorder[i]? = some node ∧ k + node.size ≤ i

/-- Two pairs of nodes stand to each other alike on both sides. -/
def Agree (a b : Tree) (x y : Nat × Nat) : Prop :=
  (x.1 = y.1 ↔ x.2 = y.2) ∧ (a.Above x.1 y.1 ↔ b.Above x.2 y.2)
    ∧ (a.LeftOf x.1 y.1 ↔ b.LeftOf x.2 y.2)

/-- Cost of putting one node of a pair in the place of the other. -/
def pairCost (a b : Tree) (x : Nat × Nat) : Nat :=
  EditDistance.nodeCost a.postorder[x.1]? b.postorder[x.2]?

/-- An edit mapping of two trees. -/
structure Mapping (a b : Tree) where
  pairs : Finset (Nat × Nat)
  inside : ∀ x ∈ pairs, x.1 < a.size ∧ x.2 < b.size
  agree : ∀ x ∈ pairs, ∀ y ∈ pairs, Agree a b x y

/-- One for each node that is left out, and what the pairs cost. -/
def Mapping.cost {a b : Tree} (mapping : Mapping a b) : Nat :=
  (a.size - mapping.pairs.card) + (b.size - mapping.pairs.card)
    + ∑ x ∈ mapping.pairs, pairCost a b x

/-- The least cost of an edit mapping. -/
noncomputable def Tree.leastCost (a b : Tree) : Nat :=
  sInf (Set.range (Mapping.cost (a := a) (b := b)))

namespace Tree

variable {tree node : Tree} {i k : Nat}

theorem above_iff (h : tree.postorder[i]? = some node) :
    tree.Above i k ↔ k < i ∧ i < k + node.size := by
  constructor
  · rintro ⟨node', h', lt⟩
    rw [h, Option.some.injEq] at h'
    rwa [h']
  · intro lt
    exact ⟨node, h, lt⟩

theorem leftOf_iff (h : tree.postorder[i]? = some node) :
    tree.LeftOf k i ↔ k + node.size ≤ i := by
  constructor
  · rintro ⟨node', h', le⟩
    rw [h, Option.some.injEq] at h'
    rwa [h']
  · intro le
    exact ⟨node, h, le⟩

theorem Above.lt (h : tree.Above i k) : k < i := by
  obtain ⟨_, _, lt, _⟩ := h
  exact lt

theorem LeftOf.lt (h : tree.LeftOf k i) : k < i := by
  obtain ⟨node, _, le⟩ := h
  have pos := node.size_pos
  omega

/-- An earlier node stands below a node or to its left. -/
theorem above_or_leftOf (h : tree.postorder[i]? = some node) (lt : k < i) :
    tree.Above i k ∨ tree.LeftOf k i := by
  rw [above_iff h, leftOf_iff h]
  omega

end Tree

/-- Two pairs of which one comes first on both sides agree if the later nodes stand above the
earlier ones on both sides or on none. -/
theorem agree_of_lt {a b nodeA nodeB : Tree} {x y : Nat × Nat}
    (hA : a.postorder[y.1]? = some nodeA) (hB : b.postorder[y.2]? = some nodeB)
    (lt : x.1 < y.1) (lt' : x.2 < y.2) (above : a.Above y.1 x.1 ↔ b.Above y.2 x.2) :
    Agree a b x y ∧ Agree a b y x := by
  have left : a.LeftOf x.1 y.1 ↔ b.LeftOf x.2 y.2 := by
    rw [Tree.above_iff hA, Tree.above_iff hB] at above
    rw [Tree.leftOf_iff hA, Tree.leftOf_iff hB]
    omega
  have noneA : ¬ a.Above x.1 y.1 ∧ ¬ a.LeftOf y.1 x.1 :=
    ⟨fun h => Nat.lt_asymm lt h.lt, fun h => Nat.lt_asymm lt h.lt⟩
  have noneB : ¬ b.Above x.2 y.2 ∧ ¬ b.LeftOf y.2 x.2 :=
    ⟨fun h => Nat.lt_asymm lt' h.lt, fun h => Nat.lt_asymm lt' h.lt⟩
  exact ⟨⟨iff_of_false (by omega) (by omega), iff_of_false noneA.1 noneB.1, left⟩,
    ⟨iff_of_false (by omega) (by omega), above, iff_of_false noneA.2 noneB.2⟩⟩

theorem agree_self (a b : Tree) (x : Nat × Nat) : Agree a b x x :=
  ⟨iff_of_true rfl rfl,
    iff_of_false (fun h => Nat.lt_irrefl _ h.lt) (fun h => Nat.lt_irrefl _ h.lt),
    iff_of_false (fun h => Nat.lt_irrefl _ h.lt) (fun h => Nat.lt_irrefl _ h.lt)⟩

end Positions

namespace Grove

section Occupying

/-- The nodes of a forest are found in a list of nodes, one after the other, from position
`first` on. -/
def Occupies (nodes : List Tree) : Nat → Grove Label → Prop
  | _, nil => True
  | first, node W p U =>
      Occupies nodes first W ∧ Occupies nodes (first + W.size) U
        ∧ ∃ tree, nodes[first + W.size + U.size]? = some tree ∧ tree.label = p
          ∧ tree.size = U.size + 1

theorem occupies_append {nodes : List Tree} {first : Nat} {W U : Grove Label} :
    Occupies nodes first (W ++ U)
      ↔ Occupies nodes first W ∧ Occupies nodes (first + W.size) U := by
  induction U with
  | nil => simp [Occupies]
  | node V q S ihV _ =>
      simp only [append_node, Occupies, ihV, size_append, Nat.add_assoc, and_assoc]

/-- The node at a position of a forest has nothing outside of the forest below it. -/
theorem Occupies.exists_node {nodes : List Tree} {X : Grove Label} {first i : Nat}
    (h : Occupies nodes first X) (le : first ≤ i) (lt : i < first + X.size) :
    ∃ tree, nodes[i]? = some tree ∧ first + tree.size ≤ i + 1 := by
  induction X generalizing first with
  | nil =>
      rw [size_nil] at lt
      omega
  | node W p U ihW ihU =>
      obtain ⟨hW, hU, tree, htree, -, hsize⟩ := h
      rw [size_node] at lt
      by_cases inW : i < first + W.size
      · exact ihW hW le inW
      · by_cases inU : i < first + W.size + U.size
        · obtain ⟨tree', htree', hle⟩ := ihU hU (by omega) inU
          exact ⟨tree', htree', by omega⟩
        · obtain rfl : i = first + W.size + U.size := by omega
          exact ⟨tree, htree, by omega⟩

mutual

/-- The outline of a tree is found where the post-order of the tree is found. -/
theorem occupies_tree (tree : Tree) (before after : List Tree) :
    Occupies (before ++ (tree.postorder ++ after)) before.length tree.outline := by
  cases tree with
  | mk kind text start? stop? children =>
      rw [Tree.outline_eq]
      have below := occupies_forest children before
        (⟨kind, text, start?, stop?, children⟩ :: after)
      have place : (Forest.outline children).size = (Forest.postorder children).length := by
        rw [Forest.size_outline, Forest.length_postorder]
      refine ⟨trivial, ?_, ⟨kind, text, start?, stop?, children⟩, ?_, rfl, ?_⟩
      · simpa [Tree.postorder] using below
      · simp [Tree.postorder, place]
      · rw [Tree.size_eq, Forest.size_outline]

theorem occupies_forest (forest before after : List Tree) :
    Occupies (before ++ (Forest.postorder forest ++ after)) before.length
      (Forest.outline forest) := by
  cases forest with
  | nil =>
      rw [Forest.outline_nil]
      exact trivial
  | cons tree rest =>
      have first := occupies_tree tree before (Forest.postorder rest ++ after)
      have others := occupies_forest rest (before ++ tree.postorder) after
      rw [Forest.outline_cons, occupies_append, Tree.size_outline, ← Tree.length_postorder,
        Forest.postorder, List.append_assoc]
      refine ⟨first, ?_⟩
      rwa [List.append_assoc, List.length_append] at others

end

theorem occupies_outline (tree : Tree) : Occupies tree.postorder 0 tree.outline := by
  have h := occupies_tree tree [] []
  simpa using h

end Occupying

section Joining

variable {a b : Tree} {first first' : Nat} {X Y : Grove Label} {pairs : Finset (Nat × Nat)}

/-- Pairs of nodes of two forests that agree with each other. -/
structure Joins (a b : Tree) (first : Nat) (X : Grove Label) (first' : Nat)
    (Y : Grove Label) (pairs : Finset (Nat × Nat)) : Prop where
  inside : ∀ x ∈ pairs, (first ≤ x.1 ∧ x.1 < first + X.size)
    ∧ first' ≤ x.2 ∧ x.2 < first' + Y.size
  agree : ∀ x ∈ pairs, ∀ y ∈ pairs, Agree a b x y

namespace Joins

theorem of_subset {X' Y' : Grove Label} {start start' : Nat} {part : Finset (Nat × Nat)}
    (h : Joins a b first X first' Y pairs) (sub : part ⊆ pairs)
    (inside : ∀ x ∈ part, (start ≤ x.1 ∧ x.1 < start + X'.size)
      ∧ start' ≤ x.2 ∧ x.2 < start' + Y'.size) :
    Joins a b start X' start' Y' part :=
  ⟨inside, fun x hx y hy => h.agree x (sub hx) y (sub hy)⟩

theorem mono {X' Y' : Grove Label} (h : Joins a b first X first' Y pairs)
    (le : X.size ≤ X'.size) (le' : Y.size ≤ Y'.size) : Joins a b first X' first' Y' pairs := by
  apply h.of_subset (Finset.Subset.refl pairs)
  intro x hx
  have inx := h.inside x hx
  omega

/-- If both last roots are paired, they are paired with each other. -/
theorem roots_mem {W U V S : Grove Label} {p q : Label}
    (h : Joins a b first (node W p U) first' (node V q S) pairs)
    (hX : Occupies a.postorder first (node W p U))
    {x y : Nat × Nat} (hx : x ∈ pairs) (hy : y ∈ pairs)
    (root : x.1 = first + W.size + U.size) (root' : y.2 = first' + V.size + S.size) :
    x.2 = first' + V.size + S.size := by
  by_contra ne
  have inx := h.inside x hx
  have iny := h.inside y hy
  have agree := h.agree x hx y hy
  simp only [size_node] at inx iny
  have later : x.2 < y.2 := by omega
  have lt : y.1 < x.1 := by
    have ne' : x.1 ≠ y.1 := fun e => Nat.ne_of_lt later (agree.1.1 e)
    omega
  obtain ⟨-, -, tree, htree, -, -⟩ := hX
  rw [← root] at htree
  rcases Tree.above_or_leftOf htree lt with above | left
  · exact Nat.lt_asymm later (agree.2.1.1 above).lt
  · exact Nat.lt_asymm later ((h.agree y hy x hx).2.2.1 left).lt

/-- A pair before the two last roots, if they are paired: both its nodes stand below the
roots, or none of them does. -/
theorem before_roots {W U V S : Grove Label} {p q : Label}
    (h : Joins a b first (node W p U) first' (node V q S) pairs)
    (hX : Occupies a.postorder first (node W p U))
    (hY : Occupies b.postorder first' (node V q S))
    (root : (first + W.size + U.size, first' + V.size + S.size) ∈ pairs)
    {x : Nat × Nat} (hx : x ∈ pairs)
    (ne : x ≠ (first + W.size + U.size, first' + V.size + S.size)) :
    x.1 < first + W.size ∧ x.2 < first' + V.size
      ∨ (first + W.size ≤ x.1 ∧ x.1 < first + W.size + U.size)
        ∧ first' + V.size ≤ x.2 ∧ x.2 < first' + V.size + S.size := by
  have inx := h.inside x hx
  have agree := h.agree _ root x hx
  simp only [size_node] at inx
  have ne₁ : x.1 ≠ first + W.size + U.size := by
    intro eq
    exact ne (Prod.ext eq (agree.1.1 eq.symm).symm)
  have ne₂ : x.2 ≠ first' + V.size + S.size := by
    intro eq
    exact ne (Prod.ext (agree.1.2 eq.symm).symm eq)
  obtain ⟨-, -, nodeA, hA, -, sizeA⟩ := hX
  obtain ⟨-, -, nodeB, hB, -, sizeB⟩ := hY
  have above := agree.2.1
  rw [Tree.above_iff hA, Tree.above_iff hB, sizeA, sizeB] at above
  omega

/-- If the last roots are paired with each other, the other pairs join what stands before the
two trees, or they join what stands below the roots. -/
theorem split {W U V S : Grove Label} {p q : Label}
    (h : Joins a b first (node W p U) first' (node V q S) pairs)
    (hX : Occupies a.postorder first (node W p U))
    (hY : Occupies b.postorder first' (node V q S))
    (root : (first + W.size + U.size, first' + V.size + S.size) ∈ pairs) :
    ∃ before below, Joins a b first W first' V before
      ∧ Joins a b (first + W.size) U (first' + V.size) S below
      ∧ pairs.card = before.card + below.card + 1
      ∧ ∑ x ∈ pairs, pairCost a b x
          = ∑ x ∈ before, pairCost a b x + ∑ x ∈ below, pairCost a b x
            + pairCost a b (first + W.size + U.size, first' + V.size + S.size) := by
  generalize hr : (first + W.size + U.size, first' + V.size + S.size) = r at root
  have sub := Finset.erase_subset r pairs
  have sides : ∀ x ∈ pairs.erase r, x.1 < first + W.size ∧ x.2 < first' + V.size
      ∨ (first + W.size ≤ x.1 ∧ x.1 < first + W.size + U.size)
        ∧ first' + V.size ≤ x.2 ∧ x.2 < first' + V.size + S.size := by
    intro x hx
    rw [Finset.mem_erase, ← hr] at hx
    exact h.before_roots hX hY (hr ▸ root) hx.2 hx.1
  refine ⟨(pairs.erase r).filter (fun x => x.1 < first + W.size),
    (pairs.erase r).filter (fun x => ¬ x.1 < first + W.size), ?_, ?_, ?_, ?_⟩
  · apply h.of_subset ((Finset.filter_subset _ _).trans sub)
    intro x hx
    rw [Finset.mem_filter] at hx
    have side := sides x hx.1
    have inx := h.inside x (sub hx.1)
    omega
  · apply h.of_subset ((Finset.filter_subset _ _).trans sub)
    intro x hx
    rw [Finset.mem_filter] at hx
    have side := sides x hx.1
    omega
  · rw [Finset.card_filter_add_card_filter_not, Finset.card_erase_add_one root]
  · rw [Finset.sum_filter_add_sum_filter_not, Finset.sum_erase_add _ _ root]

theorem eq_empty_of_nil_left (h : Joins a b first nil first' Y pairs) : pairs = ∅ := by
  rw [Finset.eq_empty_iff_forall_notMem]
  intro x hx
  have inx := h.inside x hx
  rw [size_nil] at inx
  omega

theorem eq_empty_of_nil_right (h : Joins a b first X first' nil pairs) : pairs = ∅ := by
  rw [Finset.eq_empty_iff_forall_notMem]
  intro x hx
  have inx := h.inside x hx
  rw [size_nil] at inx
  omega

end Joins

/-- A pair of two last roots costs the relabelling of the roots. -/
theorem pairCost_roots {W U V S : Grove Label} {p q : Label}
    (hX : Occupies a.postorder first (node W p U))
    (hY : Occupies b.postorder first' (node V q S)) :
    pairCost a b (first + W.size + U.size, first' + V.size + S.size) = relabel p q := by
  obtain ⟨-, -, nodeA, hA, labelA, -⟩ := hX
  obtain ⟨-, -, nodeB, hB, labelB, -⟩ := hY
  rw [pairCost, hA, hB, EditDistance.nodeCost, EditDistance.substitution_eq_relabel, labelA,
    labelB]

/-- No pairs of nodes that agree with each other cost less than the recurrence says. -/
theorem Joins.leastCost_le {first first' : Nat} {X Y : Grove Label}
    {pairs : Finset (Nat × Nat)} (h : Joins a b first X first' Y pairs)
    (hX : Occupies a.postorder first X) (hY : Occupies b.postorder first' Y) :
    leastCost X Y + 2 * pairs.card ≤ X.size + Y.size + ∑ x ∈ pairs, pairCost a b x := by
  match X, Y with
  | nil, Y =>
      rw [h.eq_empty_of_nil_left]
      simp
  | X, nil =>
      rw [h.eq_empty_of_nil_right]
      simp
  | node W p U, node V q S =>
      by_cases root : ∃ x ∈ pairs, x.1 = first + W.size + U.size
      · by_cases root' : ∃ y ∈ pairs, y.2 = first' + V.size + S.size
        · -- the last roots are paired with each other
          obtain ⟨x, hx, rootx⟩ := root
          obtain ⟨y, hy, rooty⟩ := root'
          have mem : (first + W.size + U.size, first' + V.size + S.size) ∈ pairs := by
            rwa [← rootx, ← h.roots_mem hX hx hy rootx rooty]
          obtain ⟨before, below, hbefore, hbelow, card, sum⟩ := h.split hX hY mem
          have ih := leastCost_le hbefore hX.1 hY.1
          have ih' := leastCost_le hbelow hX.2.1 hY.2.1
          have step := leastCost_match_le W p U V q S
          rw [pairCost_roots hX hY] at sum
          simp only [size_node]
          omega
        · have part : Joins a b first (node W p U) first' (V ++ S) pairs := by
            apply h.of_subset (Finset.Subset.refl pairs)
            intro x hx
            have inx := h.inside x hx
            have ne : x.2 ≠ first' + V.size + S.size := fun e => root' ⟨x, hx, e⟩
            simp only [size_append, size_node] at inx ⊢
            omega
          have ih := leastCost_le part hX (occupies_append.2 ⟨hY.1, hY.2.1⟩)
          have step := leastCost_insert_le (node W p U) V q S
          simp only [size_append, size_node] at ih ⊢
          omega
      · have part : Joins a b first (W ++ U) first' (node V q S) pairs := by
          apply h.of_subset (Finset.Subset.refl pairs)
          intro x hx
          have inx := h.inside x hx
          have ne : x.1 ≠ first + W.size + U.size := fun e => root ⟨x, hx, e⟩
          simp only [size_append, size_node] at inx ⊢
          omega
        have ih := leastCost_le part (occupies_append.2 ⟨hX.1, hX.2.1⟩) hY
        have step := leastCost_delete_le W p U (node V q S)
        simp only [size_append, size_node] at ih ⊢
        omega
termination_by X.size + Y.size
decreasing_by
  all_goals simp only [size_append, size_node]
  all_goals omega

/-- Pairs of forests side by side. -/
theorem Joins.union {W U V S : Grove Label} {before below : Finset (Nat × Nat)}
    (h : Joins a b first W first' V before)
    (h' : Joins a b (first + W.size) U (first' + V.size) S below)
    (hU : Occupies a.postorder (first + W.size) U)
    (hS : Occupies b.postorder (first' + V.size) S) :
    Joins a b first (W ++ U) first' (V ++ S) (before ∪ below) := by
  have across : ∀ x ∈ before, ∀ y ∈ below, Agree a b x y ∧ Agree a b y x := by
    intro x hx y hy
    have inx := h.inside x hx
    have iny := h'.inside y hy
    obtain ⟨nodeA, hnodeA, leA⟩ := hU.exists_node iny.1.1 iny.1.2
    obtain ⟨nodeB, hnodeB, leB⟩ := hS.exists_node iny.2.1 iny.2.2
    apply agree_of_lt hnodeA hnodeB (by omega) (by omega)
    rw [Tree.above_iff hnodeA, Tree.above_iff hnodeB]
    omega
  constructor
  · intro x hx
    rw [size_append, size_append]
    rcases Finset.mem_union.1 hx with hx | hx
    · have inx := h.inside x hx
      omega
    · have inx := h'.inside x hx
      omega
  · intro x hx y hy
    rcases Finset.mem_union.1 hx with hx | hx <;> rcases Finset.mem_union.1 hy with hy | hy
    · exact h.agree x hx y hy
    · exact (across x hx y hy).1
    · exact (across y hy x hx).2
    · exact h'.agree x hx y hy

/-- The pair of two last roots joins the others if each of them lies below both roots or
below none. -/
theorem Joins.insert_roots {W U V S : Grove Label} {p q : Label}
    (h : Joins a b first (W ++ U) first' (V ++ S) pairs)
    (sides : ∀ x ∈ pairs, first + W.size ≤ x.1 ↔ first' + V.size ≤ x.2)
    (hX : Occupies a.postorder first (node W p U))
    (hY : Occupies b.postorder first' (node V q S)) :
    Joins a b first (node W p U) first' (node V q S)
      (insert (first + W.size + U.size, first' + V.size + S.size) pairs) := by
  obtain ⟨-, -, rootA, hA, -, sizeA⟩ := hX
  obtain ⟨-, -, rootB, hB, -, sizeB⟩ := hY
  have roots : ∀ x ∈ pairs, Agree a b x (first + W.size + U.size, first' + V.size + S.size)
      ∧ Agree a b (first + W.size + U.size, first' + V.size + S.size) x := by
    intro x hx
    have inx := h.inside x hx
    have side := sides x hx
    simp only [size_append] at inx
    apply agree_of_lt hA hB (by omega) (by omega)
    rw [Tree.above_iff hA, Tree.above_iff hB]
    omega
  constructor
  · intro x hx
    simp only [size_node]
    rcases Finset.mem_insert.1 hx with rfl | hx
    · omega
    · have inx := h.inside x hx
      simp only [size_append] at inx
      omega
  · intro x hx y hy
    rcases Finset.mem_insert.1 hx with rfl | hx <;> rcases Finset.mem_insert.1 hy with rfl | hy
    · exact agree_self a b _
    · exact (roots y hy).2
    · exact (roots x hx).1
    · exact h.agree x hx y hy

/-- Pairs before two last trees, pairs below their roots, and the roots. -/
theorem Joins.combine {W U V S : Grove Label} {p q : Label}
    {before below : Finset (Nat × Nat)} (h : Joins a b first W first' V before)
    (h' : Joins a b (first + W.size) U (first' + V.size) S below)
    (hX : Occupies a.postorder first (node W p U))
    (hY : Occupies b.postorder first' (node V q S)) :
    ∃ pairs, Joins a b first (node W p U) first' (node V q S) pairs
      ∧ pairs.card = before.card + below.card + 1
      ∧ ∑ x ∈ pairs, pairCost a b x
          = ∑ x ∈ before, pairCost a b x + ∑ x ∈ below, pairCost a b x + relabel p q := by
  have sides : ∀ x ∈ before ∪ below, first + W.size ≤ x.1 ↔ first' + V.size ≤ x.2 := by
    intro x hx
    rcases Finset.mem_union.1 hx with hx | hx
    · have inx := h.inside x hx
      omega
    · have inx := h'.inside x hx
      omega
  have apart : Disjoint before below := by
    rw [Finset.disjoint_left]
    intro x hx hx'
    have inx := h.inside x hx
    have inx' := h'.inside x hx'
    omega
  have fresh : (first + W.size + U.size, first' + V.size + S.size) ∉ before ∪ below := by
    intro hr
    have inr := (h.union h' hX.2.1 hY.2.1).inside _ hr
    simp only [size_append] at inr
    omega
  refine ⟨_, (h.union h' hX.2.1 hY.2.1).insert_roots sides hX hY, ?_, ?_⟩
  · rw [Finset.card_insert_of_notMem fresh, Finset.card_union_of_disjoint apart]
  · rw [Finset.sum_insert fresh, Finset.sum_union apart, pairCost_roots hX hY, Nat.add_comm]

/-- Some pairs of nodes that agree with each other cost no more than the recurrence says. -/
theorem exists_joins {first first' : Nat} {X Y : Grove Label}
    (hX : Occupies a.postorder first X) (hY : Occupies b.postorder first' Y) :
    ∃ pairs, Joins a b first X first' Y pairs ∧ pairs.card ≤ X.size ∧ pairs.card ≤ Y.size
      ∧ X.size + Y.size + ∑ x ∈ pairs, pairCost a b x ≤ leastCost X Y + 2 * pairs.card := by
  match X, Y with
  | nil, Y => exact ⟨∅, ⟨by simp, by simp⟩, by simp⟩
  | X, nil => exact ⟨∅, ⟨by simp, by simp⟩, by simp⟩
  | node W p U, node V q S =>
      rcases leastCost_cases W p U V q S with h | h | h
      · obtain ⟨pairs, hpairs, card, card', cost⟩ :=
          exists_joins (occupies_append.2 ⟨hX.1, hX.2.1⟩) hY
        have grows := size_node_eq W p U
        exact ⟨pairs, hpairs.mono (by omega) (Nat.le_refl _), by omega, by omega, by omega⟩
      · obtain ⟨pairs, hpairs, card, card', cost⟩ :=
          exists_joins hX (occupies_append.2 ⟨hY.1, hY.2.1⟩)
        have grows := size_node_eq V q S
        exact ⟨pairs, hpairs.mono (Nat.le_refl _) (by omega), by omega, by omega, by omega⟩
      · obtain ⟨before, hbefore, card₁, card₁', cost₁⟩ := exists_joins hX.1 hY.1
        obtain ⟨below, hbelow, card₂, card₂', cost₂⟩ := exists_joins hX.2.1 hY.2.1
        obtain ⟨pairs, hpairs, card, cost⟩ := hbefore.combine hbelow hX hY
        simp only [size_node]
        exact ⟨pairs, hpairs, by omega, by omega, by omega⟩
termination_by X.size + Y.size
decreasing_by
  all_goals simp only [size_append, size_node]
  all_goals omega

end Joining

end Grove

section Least

variable (a b : Tree)

/-- No mapping costs less than the recurrence says. -/
theorem Mapping.leastCost_le {a b : Tree} (mapping : Mapping a b) :
    Grove.leastCost a.outline b.outline ≤ mapping.cost := by
  have joins : Grove.Joins a b 0 a.outline 0 b.outline mapping.pairs := by
    refine ⟨?_, mapping.agree⟩
    intro x hx
    have inx := mapping.inside x hx
    rw [Tree.size_outline, Tree.size_outline]
    omega
  have h := joins.leastCost_le (Grove.occupies_outline a) (Grove.occupies_outline b)
  rw [Tree.size_outline, Tree.size_outline] at h
  rw [Mapping.cost]
  omega

/-- Some mapping costs no more than the recurrence says. -/
theorem Mapping.exists_cost_le :
    ∃ mapping : Mapping a b, mapping.cost ≤ Grove.leastCost a.outline b.outline := by
  obtain ⟨pairs, joins, card, card', cost⟩ :=
    Grove.exists_joins (Grove.occupies_outline a) (Grove.occupies_outline b)
  rw [Tree.size_outline] at card card'
  rw [Tree.size_outline, Tree.size_outline] at cost
  refine ⟨⟨pairs, ?_, joins.agree⟩, ?_⟩
  · intro x hx
    have inx := joins.inside x hx
    rw [Tree.size_outline, Tree.size_outline] at inx
    omega
  · rw [Mapping.cost]
    dsimp only
    omega

/-- The least cost of a mapping is that of the two outlines. -/
theorem Tree.leastCost_eq : a.leastCost b = Grove.leastCost a.outline b.outline := by
  obtain ⟨mapping, le⟩ := Mapping.exists_cost_le a b
  apply Nat.le_antisymm
  · exact Nat.le_trans (Nat.sInf_le (Set.mem_range_self mapping)) le
  · obtain ⟨least, eq⟩ := Nat.sInf_mem (⟨_, mapping, rfl⟩ :
      (Set.range (Mapping.cost (a := a) (b := b))).Nonempty)
    rw [Tree.leastCost, ← eq]
    exact least.leastCost_le

end Least

end Likeness
