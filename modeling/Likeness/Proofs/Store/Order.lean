import Likeness.Proofs.Text.ByteOrder
import Likeness.Store.Basic
import Mathlib.Data.List.Pairwise

/-!
# The order of cells

Cells are compared by their kinds, then by their numbers, then by their bytes.  Each of these is a
linear order, so rows can be sorted by any of their columns: the order of rows is total and
transitive, whatever cells they hold.

**Main statements.**
* `Cell.order_eq`: the three steps of a comparison.
* `Table.transCmp_orderBy`: the order of rows by some columns.
* `Table.sortedBy_append_singleton`: one more row leaves the others in their order.
* `Table.sortedBy_eq`: rows that are told apart by some columns have one order.
-/

namespace Likeness

namespace Collation

instance : Std.TransCmp orderBytes := by
  refine Std.TransOrd.compareOfLessAndEq_of_lt_trans_of_lt_iff ?_ ?_
  · intro a b c
    exact List.lt_trans
  · intro a b
    constructor
    · intro less
      exact ⟨List.lt_asymm less, fun same => List.lt_irrefl b (same ▸ less)⟩
    · rintro ⟨notGreater, other⟩
      by_contra notLess
      exact other (List.le_antisymm notGreater notLess)

theorem compare_eq_orderBytes (a b : String) :
    compare a b = orderBytes a.toUTF8.toList b.toUTF8.toList := by
  change compareOfLessAndEq a b = _
  simp only [orderBytes, compareOfLessAndEq, Utf8.lt_iff_bytes_lt, Utf8.eq_iff_bytes_eq]

end Collation

namespace Cell

section Numbers

theorem compare_mul_right (m n : Int) {k : Int} (positive : 0 < k) :
    compare (m * k) (n * k) = compare m n := by
  rcases Int.lt_trichotomy m n with less | rfl | greater
  · rw [Int.compare_eq_lt.2 less, Int.compare_eq_lt]
    exact Int.mul_lt_mul_of_pos_right less positive
  · rw [Int.compare_eq_eq.2 rfl, Int.compare_eq_eq.2 rfl]
  · rw [Int.compare_eq_gt.2 greater, Int.compare_eq_gt]
    exact Int.mul_lt_mul_of_pos_right greater positive

/-- A number in units of the finest one. -/
def units (cell : Cell) : Int :=
  cell.scaled.1 * 2 ^ (cell.scaled.2 + 1074).toNat

theorem le_scaled (cell : Cell) : -1074 ≤ cell.scaled.2 := by
  cases cell with
  | real value =>
      simp only [scaled, Binary64.magnitude?]
      split
      · simp
      · split
        · simp
        · simp
          omega
  | _ => simp [scaled]

theorem orderNumbers_eq (a b : Cell) : orderNumbers a b = compare a.units b.units := by
  have ha := a.le_scaled
  have hb := b.le_scaled
  unfold orderNumbers units
  generalize a.scaled = x at *
  generalize b.scaled = y at *
  obtain ⟨m, p⟩ := x
  obtain ⟨n, q⟩ := y
  simp only at *
  have split (r : Int) (low : min p q ≤ r) : (2 : Int) ^ (r + 1074).toNat =
      2 ^ (r - min p q).toNat * 2 ^ (min p q + 1074).toNat := by
    rw [← Int.pow_add]
    congr 1
    omega
  rw [split p (by omega), split q (by omega), ← Int.mul_assoc, ← Int.mul_assoc,
    compare_mul_right _ _ (Int.pow_pos (by decide))]

end Numbers

theorem compare_units_integer (m n : Int) :
    compare (integer m).units (integer n).units = compare m n :=
  compare_mul_right m n (Int.pow_pos (by decide))

theorem units_of_rank_ne {cell : Cell} (other : cell.rank ≠ 1) : cell.units = 0 := by
  cases cell with
  | integer value => exact absurd rfl other
  | real value => exact absurd rfl other
  | _ => exact Int.zero_mul _

theorem bytes_of_rank_le {cell : Cell} (numeric : cell.rank ≤ 1) : cell.bytes = [] := by
  cases cell with
  | null => rfl
  | integer value => rfl
  | real value => rfl
  | _ => simp [rank] at numeric

/-- Two cells of the same kind. -/
theorem orderSame_eq {a b : Cell} (same : a.rank = b.rank) :
    (match a.rank with
      | 0 => .eq
      | 1 => orderNumbers a b
      | 2 => (Collation.plain .utf8).orderRaw a.bytes b.bytes
      | _ => Collation.orderBytes a.bytes b.bytes) =
      (compare a.units b.units).then (Collation.orderBytes a.bytes b.bytes) := by
  have none : Collation.orderBytes [] [] = .eq := rfl
  split
  · next kind =>
      rw [units_of_rank_ne (by omega), units_of_rank_ne (by omega), bytes_of_rank_le (by omega),
        bytes_of_rank_le (by omega), none]
      rfl
  · next kind =>
      rw [orderNumbers_eq, bytes_of_rank_le (by omega), bytes_of_rank_le (by omega), none,
        Ordering.then_eq]
  · next kind =>
      rw [units_of_rank_ne (by omega), units_of_rank_ne (by omega)]
      rfl
  · next _ other _ =>
      rw [units_of_rank_ne other, units_of_rank_ne (same ▸ other)]
      rfl

/-- Cells are compared by their kinds, their numbers and their bytes. -/
theorem order_eq (a b : Cell) :
    a.order (.plain .utf8) b =
      (compare a.rank b.rank).then
        ((compare a.units b.units).then (Collation.orderBytes a.bytes b.bytes)) := by
  unfold order
  split
  · next m n =>
      have none : Collation.orderBytes (integer m).bytes (integer n).bytes = .eq := rfl
      rw [compare_units_integer, none, Ordering.then_eq]
      rfl
  · next s t =>
      have none : compare (text s).units (text t).units = .eq := by
        rw [units_of_rank_ne (by simp [rank]), units_of_rank_ne (by simp [rank])]
        rfl
      rw [none]
      exact Collation.compare_eq_orderBytes s t
  · cases ranks : compare a.rank b.rank with
    | lt => rfl
    | gt => rfl
    | eq => exact orderSame_eq (Nat.compare_eq_eq.1 ranks)

instance : Std.TransCmp (order (.plain .utf8)) := by
  have same : order (.plain .utf8) = compareLex (compareOn rank) (compareLex (compareOn units)
      (fun a b => Collation.orderBytes a.bytes b.bytes)) := by
    funext a b
    exact order_eq a b
  let _ : Ord (List UInt8) := ⟨Collation.orderBytes⟩
  have _ : Std.TransOrd (List UInt8) := inferInstanceAs (Std.TransCmp Collation.orderBytes)
  rw [same]
  exact inferInstanceAs
    (Std.TransCmp (compareLex (compareOn rank) (compareLex (compareOn units) (compareOn bytes))))

theorem agrees_comm (a b : Cell) : a.agrees (.plain .utf8) b = b.agrees (.plain .utf8) a := by
  have swap : a.order (.plain .utf8) b = (b.order (.plain .utf8) a).swap :=
    Std.OrientedCmp.eq_swap
  rw [agrees, agrees, swap]
  cases b.order (.plain .utf8) a <;> simp [Bool.and_comm]

theorem agrees_text_iff {s t : String} :
    (text s).agrees (.plain .utf8) (text t) = true ↔ s = t := by
  have same : compare s t = .eq ↔ s = t := Std.LawfulEqOrd.compare_eq_iff_eq
  simp [agrees, order, Collation.order, same]

end Cell

section Sorting

variable {α : Type} {le : α → α → Bool}

theorem filter_of_split {l front back : List α} {p : α → Bool} (split : l = front ++ back)
    (passed : ∀ x ∈ front, p x = false) (kept : ∀ x ∈ back, p x = true) :
    front = l.filter (fun x => !p x) ∧ back = l.filter p := by
  have front' : front.filter p = [] := by
    rw [List.filter_eq_nil_iff]
    intro x mem
    simp [passed x mem]
  have back' : back.filter (fun x => !p x) = [] := by
    rw [List.filter_eq_nil_iff]
    intro x mem
    simp [kept x mem]
  rw [split, List.filter_append, List.filter_append, front', back', List.nil_append,
    List.append_nil, List.filter_eq_self.2 kept]
  exact ⟨(List.filter_eq_self.2 fun x mem => by simp [passed x mem]).symm, rfl⟩

variable (trans : ∀ a b c, le a b = true → le b c = true → le a c = true)
  (total : ∀ a b, (le a b || le b a) = true)
include trans total

/-- The first one of some items is sorted in front of those that do not come before it. -/
theorem mergeSort_cons_eq (x : α) (l : List α) :
    (x :: l).mergeSort le =
      (l.mergeSort le).filter (fun y => !le x y) ++ x :: (l.mergeSort le).filter (le x) := by
  obtain ⟨front, back, sorted, split, passed⟩ := List.mergeSort_cons trans total x l
  have pairs := List.pairwise_mergeSort trans total (x :: l)
  rw [sorted, List.pairwise_append, List.pairwise_cons] at pairs
  obtain ⟨frontEq, backEq⟩ := filter_of_split split
    (fun y mem => by simpa using passed y mem) pairs.2.1.1
  rw [sorted, ← frontEq, ← backEq]

/-- One more item at the end changes nothing in the order of the others. -/
theorem mergeSort_append_singleton (l : List α) (x : α) :
    ∃ front back, l.mergeSort le = front ++ back ∧
      (l ++ [x]).mergeSort le = front ++ x :: back := by
  induction l with
  | nil => exact ⟨[], [], by simp, by simp⟩
  | cons y l ih =>
      obtain ⟨front, back, before, after⟩ := ih
      -- the first item splits both lists in the same way, on whichever side the new one is
      rw [List.cons_append, mergeSort_cons_eq trans total, mergeSort_cons_eq trans total, before,
        after]
      cases first : le y x with
      | true =>
          refine ⟨front.filter (fun z => !le y z) ++ back.filter (fun z => !le y z) ++
            y :: front.filter (le y), back.filter (le y), ?_, ?_⟩
          · simp
          · simp [first]
      | false =>
          refine ⟨front.filter (fun z => !le y z), back.filter (fun z => !le y z) ++
            y :: (front.filter (le y) ++ back.filter (le y)), ?_, ?_⟩
          · simp
          · simp [first]

end Sorting

namespace Table

/-- All columns of a list are ordered by their bytes. -/
def IsPlain (table : Table) (columns : List (String × Bool)) : Prop :=
  ∀ column ∈ columns, (table.columnOf column.1).collation = .plain .utf8

theorem transCmp_orderBy {table : Table} {columns : List (String × Bool)}
    (plain : table.IsPlain columns) : Std.TransCmp (table.orderBy columns) := by
  induction columns with
  | nil => exact { eq_swap := rfl, isLE_trans := fun _ _ => rfl }
  | cons column columns ih =>
      obtain ⟨key, isTurned⟩ := column
      have collation : (table.columnOf key).collation = .plain .utf8 := plain _ (.head _)
      have rest := ih fun other mem => plain other (.tail _ mem)
      let _ : Ord Cell := ⟨Cell.order (.plain .utf8)⟩
      have _ : Std.TransOrd Cell := inferInstanceAs (Std.TransCmp (Cell.order (.plain .utf8)))
      have first : Std.TransCmp (compareOn (table.at? key)) := inferInstance
      cases isTurned with
      | false =>
          have same : table.orderBy ((key, false) :: columns) =
              compareLex (compareOn (table.at? key)) (table.orderBy columns) := by
            funext a b
            simp only [orderBy, List.foldr_cons, collation]
            rfl
          rw [same]
          infer_instance
      | true =>
          have same : table.orderBy ((key, true) :: columns) =
              compareLex (fun a b => compareOn (table.at? key) b a) (table.orderBy columns) := by
            funext a b
            have swap : compareOn (table.at? key) b a = (compareOn (table.at? key) a b).swap :=
              Std.OrientedCmp.eq_swap
            simp only [orderBy, List.foldr_cons, collation, compareLex, swap]
            rfl
          rw [same]
          infer_instance

section Sorted

variable {table : Table} {columns : List (String × Bool)} (plain : table.IsPlain columns)
include plain

theorem orderBy_trans (a b c : List Cell) (first : (table.orderBy columns a b).isLE = true)
    (second : (table.orderBy columns b c).isLE = true) :
    (table.orderBy columns a c).isLE = true := by
  have := transCmp_orderBy plain
  exact Std.TransCmp.isLE_trans first second

theorem orderBy_total (a b : List Cell) :
    ((table.orderBy columns a b).isLE || (table.orderBy columns b a).isLE) = true := by
  have := transCmp_orderBy plain
  have swap : table.orderBy columns b a = (table.orderBy columns a b).swap :=
    Std.OrientedCmp.eq_swap
  rw [swap]
  cases table.orderBy columns a b <;> rfl

theorem pairwise_sortedBy (rows : List (List Cell)) :
    (table.sortedBy columns rows).Pairwise
      (fun a b => (table.orderBy columns a b).isLE = true) :=
  List.pairwise_mergeSort (orderBy_trans plain) (orderBy_total plain) rows

theorem sortedBy_append_singleton (rows : List (List Cell)) (row : List Cell) :
    ∃ front back, table.sortedBy columns rows = front ++ back ∧
      table.sortedBy columns (rows ++ [row]) = front ++ row :: back :=
  mergeSort_append_singleton (orderBy_trans plain) (orderBy_total plain) rows row

/-- Rows in strictly ascending order are what all lists of the same rows are sorted into. -/
theorem sortedBy_eq {rows listed : List (List Cell)} (perm : rows.Perm listed)
    (ascending : listed.Pairwise (fun a b => table.orderBy columns a b = .lt)) :
    table.sortedBy columns rows = listed := by
  have := transCmp_orderBy plain
  have sorted : (table.sortedBy columns rows).Perm listed := (List.mergeSort_perm _ _).trans perm
  have different : listed.Pairwise (fun a b => table.orderBy columns a b ≠ .eq) :=
    ascending.imp fun less => by
      rw [less]
      exact nofun
  have : Std.Symm (fun a b => table.orderBy columns a b ≠ .eq) := by
    constructor
    intro a b other same
    exact other (Std.OrientedCmp.eq_symm same)
  refine List.Perm.eq_of_pairwise ?_ (pairwise_sortedBy plain rows)
    (ascending.imp fun less => congrArg Ordering.isLE less) sorted
  -- two different rows are told apart by the columns, so they cannot stand in both orders
  intro a b ha hb first second
  by_contra apart
  exact different.forall (sorted.mem_iff.1 ha) hb apart
    (Std.OrientedCmp.isLE_antisymm first second)

end Sorted

end Table
end Likeness
