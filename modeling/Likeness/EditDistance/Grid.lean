/-!
# Flat tables

A table of numbers with a fixed number of columns is kept in one array, row after row.
Reading or writing outside of the array is refused, and so is a difference that would fall
below zero; a computation that never meets `none` has therefore stayed inside its tables.
A table that takes up only the first cells of an array is a window, and whatever lies behind
these cells is outside.

`repeatFrom` runs one step for each index of a range and stops at the first refusal.
-/

namespace Likeness
namespace EditDistance

/-- The difference of two numbers, unless it falls below zero. -/
@[inline] def minus? (a b : Nat) : Option Nat :=
  if b ≤ a then some (a - b) else none

/-- An array with one cell replaced, unless the cell is outside. -/
@[inline] def write? (cells : Array Nat) (place value : Nat) : Option (Array Nat) :=
  if h : place < cells.size then some (cells.set place value h) else none

/-- A cell of the window of the first `limit` cells. -/
@[inline] def readWithin? (limit : Nat) (cells : Array Nat) (place : Nat) : Option Nat :=
  if place < limit then cells[place]? else none

/-- An array with one cell of the window of the first `limit` cells replaced. -/
@[inline] def writeWithin? (limit : Nat) (cells : Array Nat) (place value : Nat) :
    Option (Array Nat) :=
  if place < limit then write? cells place value else none

/-- Runs `step` at `first`, `first + 1`, … for `count` indices, until one is refused. -/
@[specialize] def repeatFrom {α : Type} (step : Nat → α → Option α) :
    (first count : Nat) → α → Option α
  | _, 0, state => some state
  | first, count + 1, state =>
      match step first state with
      | none => none
      | some state => repeatFrom step (first + 1) count state

@[simp] theorem minus?_eq_some {a b c : Nat} : minus? a b = some c ↔ b ≤ a ∧ a - b = c := by
  by_cases h : b ≤ a <;> simp [minus?, h]

theorem minus?_add_one (a : Nat) : minus? (a + 1) 1 = some a := by
  rw [minus?_eq_some]
  omega

theorem readWithin?_eq {limit place : Nat} (inside : place < limit) (cells : Array Nat) :
    readWithin? limit cells place = cells[place]? :=
  if_pos inside

theorem writeWithin?_eq {limit place : Nat} (inside : place < limit) (cells : Array Nat)
    (value : Nat) : writeWithin? limit cells place value = write? cells place value :=
  if_pos inside

end EditDistance
end Likeness
