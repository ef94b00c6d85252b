import Likeness.Report.Text
import Mathlib.Data.Prod.Lex
import Mathlib.Data.String.Basic

/-!
# The most similar pairs first

Records are listed by descending similarity, and those that are as similar as each other by both
names.  Similarities are compared by their bit patterns, so what is not a number has a place too,
and minus zero stands right below zero.  A limit cuts the list off, so that no record that is left
out comes before one that is shown.

**Main statements.**
* `Binary64.exceeds_iff`: the rank of a bit pattern is its place among all bit patterns.
* `Record.notAfter_iff`: the order in which records are sorted is linear on their keys.
* `Printed.results_show_most_similar`: which records are shown, and in which order.
-/

namespace Likeness

namespace Binary64

variable {x y : Binary64}

/-- One bit pattern stands above another: a positive one above all negative ones, two positive ones
in the order of their bits, and two negative ones the other way round. -/
def Exceeds (x y : Binary64) : Prop :=
  match x.isNegative, y.isNegative with
  | false, true => True
  | true, false => False
  | false, false => y.bits < x.bits
  | true, true => x.bits < y.bits

theorem isNegative_iff : x.isNegative = true ↔ 2 ^ 63 ≤ x.bits.toNat := by
  have bound := x.bits.toNat_lt
  rw [isNegative, beq_iff_eq, ← UInt64.toNat_inj, UInt64.toNat_shiftRight,
    Nat.shiftRight_eq_div_pow]
  change x.bits.toNat / 2 ^ 63 = 1 ↔ _
  omega

/-- The ranks of positive bit patterns start at zero, those of negative ones go down from minus
one. -/
theorem rank_cases (x : Binary64) :
    (x.isNegative = false ∧ x.rank = x.bits.toNat) ∨
      x.isNegative = true ∧ x.rank = 2 ^ 63 - 1 - (x.bits.toNat : Int) ∧
        2 ^ 63 ≤ x.bits.toNat := by
  have bound := x.bits.toNat_lt
  cases sign : x.isNegative with
  | false => exact Or.inl ⟨rfl, by rw [rank, sign]; rfl⟩
  | true =>
      have large := isNegative_iff.1 sign
      refine Or.inr ⟨rfl, ?_, large⟩
      rw [rank, if_pos sign]
      omega

theorem exceeds_iff : x.Exceeds y ↔ y.rank < x.rank := by
  have hx := x.bits.toNat_lt
  have hy := y.bits.toNat_lt
  rcases x.rank_cases with ⟨signX, rankX⟩ | ⟨signX, rankX, _⟩ <;>
    rcases y.rank_cases with ⟨signY, rankY⟩ | ⟨signY, rankY, _⟩ <;>
      simp only [Exceeds, signX, signY, rankX, rankY, UInt64.lt_iff_toNat_lt, true_iff,
        false_iff] <;>
      omega

theorem rank_inj : x.rank = y.rank ↔ x = y := by
  have hx := x.bits.toNat_lt
  have hy := y.bits.toNat_lt
  constructor
  · intro same
    have bits : x.bits.toNat = y.bits.toNat := by
      rcases x.rank_cases with ⟨_, rankX⟩ | ⟨_, rankX, _⟩ <;>
        rcases y.rank_cases with ⟨_, rankY⟩ | ⟨_, rankY, _⟩ <;> omega
    cases x
    cases y
    exact congrArg mk (UInt64.toNat_inj.1 bits)
  · rintro rfl
    rfl

end Binary64

namespace Record

/-- One record comes before another: it is more similar, or as similar and first by the names. -/
def Precedes (a b : Record) : Prop :=
  a.similarity.Exceeds b.similarity ∨
    a.similarity = b.similarity ∧ (a.file1 < b.file1 ∨ a.file1 = b.file1 ∧ a.file2 < b.file2)

/-- What decides on the place of a record, the most important part first. -/
def key (r : Record) : ℤᵒᵈ ×ₗ String ×ₗ String :=
  toLex (OrderDual.toDual r.similarity.rank, toLex (r.file1, r.file2))

variable {a b : Record}

theorem precedes_iff : a.Precedes b ↔ a.key < b.key := by
  rw [Precedes, Binary64.exceeds_iff, ← Binary64.rank_inj, key, key, Prod.Lex.toLex_lt_toLex,
    Prod.Lex.toLex_lt_toLex]
  rfl

theorem notAfter_iff : Printed.notAfter a b = true ↔ a.key ≤ b.key := by
  rw [key, key, Prod.Lex.toLex_le_toLex, Prod.Lex.toLex_le_toLex, Printed.notAfter]
  change _ ↔ b.similarity.rank < a.similarity.rank ∨ a.similarity.rank = b.similarity.rank ∧
    (a.file1 < b.file1 ∨ a.file1 = b.file1 ∧ a.file2 ≤ b.file2)
  split
  · next similar =>
      rw [similar]
      split
      · next named =>
          rw [named]
          simp only [lt_irrefl, false_or, true_and, Bool.not_eq_true', decide_eq_false_iff_not,
            not_lt]
      · next named =>
          simp only [named, lt_irrefl, false_or, true_and, false_and, or_false, decide_eq_true_eq]
  · next apart => simp only [apart, false_and, or_false, decide_eq_true_eq]

end Record

namespace Printed

open Record

theorem perm_ranked (rs : List Record) : (ranked rs).Perm rs :=
  List.mergeSort_perm rs notAfter

theorem pairwise_ranked (rs : List Record) : (ranked rs).Pairwise (fun a b => ¬ b.Precedes a) := by
  have sorted : (ranked rs).Pairwise (fun a b => notAfter a b = true) := by
    refine List.pairwise_mergeSort ?_ ?_ rs
    · intro a b c first second
      rw [notAfter_iff] at *
      exact first.trans second
    · intro a b
      rw [Bool.or_eq_true, notAfter_iff, notAfter_iff]
      exact le_total _ _
  refine sorted.imp ?_
  intro a b h
  rw [precedes_iff, not_lt]
  exact notAfter_iff.1 h

/-- What is not a number comes first, and zero before minus zero. -/
example :
    ranked [⟨"a", "b", 2, ⟨0x8000000000000000⟩⟩, ⟨"b", "c", 2, .zero⟩, ⟨"a", "c", 1, .one⟩,
        ⟨"a", "d", 1, ⟨0x7ff8000000000000⟩⟩] =
      [⟨"a", "d", 1, ⟨0x7ff8000000000000⟩⟩, ⟨"a", "c", 1, .one⟩, ⟨"b", "c", 2, .zero⟩,
        ⟨"a", "b", 2, ⟨0x8000000000000000⟩⟩] := by
  cbv

theorem results_none (rs : List Record) :
    results rs none = String.join ((ranked rs).map fun r => line (record r)) := by
  rw [results, Nat.sub_self]
  exact String.append_empty

theorem results_some (rs : List Record) (n : Nat) :
    results rs (some n) = String.join (((ranked rs).take n).map fun r => line (record r)) ++
      if n < rs.length then line ("... and " ++ toString (rs.length - n) ++ " more pairs")
      else "" := by
  have length := (perm_ranked rs).length_eq
  rw [results]
  simp only [List.length_take, length]
  split
  · next none => rw [if_neg (by omega)]
  · next more =>
      have less : n < rs.length := by omega
      rw [if_pos less, Nat.min_eq_left (Nat.le_of_lt less)]

/-- All records are printed, each on a line of its own, the most similar ones first and those that
are as similar by the names.  With a limit so many records are printed as it says, if there are as
many, and none of those that are left out comes before one that is printed; a last line tells how
many are left out, unless none is. -/
theorem results_show_most_similar (rs : List Record) :
    let lines := fun shown : List Record => String.join (shown.map fun r =>
      r.file1 ++ " ↔ " ++ r.file2 ++ ": similarity=" ++ r.similarity.fixed 4 ++ " distance=" ++
        toString r.distance ++ "\n")
    (∃ shown, shown.Perm rs ∧ shown.Pairwise (fun a b => ¬ b.Precedes a) ∧
      results rs none = lines shown) ∧
    ∀ n, ∃ shown left, (shown ++ left).Perm rs ∧ shown.length = min n rs.length ∧
      shown.Pairwise (fun a b => ¬ b.Precedes a) ∧
      (∀ r ∈ shown, ∀ other ∈ left, ¬ other.Precedes r) ∧
      results rs (some n) = lines shown ++
        if n < rs.length then "... and " ++ toString (rs.length - n) ++ " more pairs" ++ "\n"
        else "" := by
  refine ⟨⟨ranked rs, perm_ranked rs, pairwise_ranked rs, results_none rs⟩, ?_⟩
  intro n
  have perm := perm_ranked rs
  have sorted := pairwise_ranked rs
  rw [← List.take_append_drop n (ranked rs)] at perm sorted
  obtain ⟨before, _, across⟩ := List.pairwise_append.1 sorted
  refine ⟨_, _, perm, ?_, before, across, results_some rs n⟩
  rw [List.length_take, (perm_ranked rs).length_eq]

end Printed
end Likeness
