import Likeness.Binary64

/-!
# Decimal digits of a binary number

A finite number `m * 2 ^ q` is written in decimal in one of three ways, all exact up to
the last digit chosen.

* `shortest`: the fewest digits that read back as the same number, and of those the nearest
  to it.  The numbers that read back as `m * 2 ^ q` form an interval, which contains its
  ends iff `m` is even.  For one digit, two digits, and so on, the two neighbours of the
  number on the decimal grid are tested against the interval; seventeen digits always do.
* `rounded`: a given number of digits.
* `fixed`: the number rounded to a given number of decimal places, an exact half going to
  the even neighbour.
-/

namespace Likeness
namespace Decimal

/-- Where an exact half goes. -/
inductive Tie
  | up
  | toEven
deriving DecidableEq, Repr

/-- A positive decimal number: its digits `d₁d₂…`, read as `d₁.d₂… * 10 ^ exponent`. -/
structure Digits where
  digits : List Char
  exponent : Int
deriving DecidableEq, Repr, Inhabited

section Scaling

/-- Numerator of `base ^ e`. -/
def powerUp (base : Nat) (e : Int) : Nat :=
  base ^ e.toNat

/-- Denominator of `base ^ e`. -/
def powerDown (base : Nat) (e : Int) : Nat :=
  base ^ (-e).toNat

/-- The fraction `num / den` rounded to a natural number. -/
def roundDiv (tie : Tie) (num den : Nat) : Nat :=
  let quotient := num / den
  let twice := 2 * (num % den)
  if twice < den then quotient
  else if den < twice then quotient + 1
  else match tie with
    | .up => quotient + 1
    | .toEven => quotient + quotient % 2

/-- The digits of a natural number, most significant first. -/
def digitsOf (n : Nat) : List Char :=
  Nat.toDigits 10 n

end Scaling

section Shortest

/-- A rounding interval in units of `2 ^ (q - 2)`: the number itself, the two ends, and
whether the ends belong to it. -/
structure Interval where
  low : Nat
  middle : Nat
  high : Nat
  closed : Bool

/-- The numbers that round to `m * 2 ^ q`.  Below a power of two the grid of binary numbers
is twice as fine, unless the exponent is already the least one. -/
def interval (m : Nat) (q : Int) : Interval :=
  let low := if m = 2 ^ 52 ∧ -1074 < q then 4 * m - 1 else 4 * m - 2
  ⟨low, 4 * m, 4 * m + 2, m % 2 = 0⟩

/-- Whether `c * 10 ^ g` lies in an interval with unit `2 ^ u`, both sides scaled to natural
numbers by `scaleC` and `scaleI`. -/
def Interval.contains (range : Interval) (scaleI scaleC c : Nat) : Bool :=
  let point := c * scaleC
  if range.closed then
    range.low * scaleI ≤ point && point ≤ range.high * scaleI
  else
    range.low * scaleI < point && point < range.high * scaleI

/-- The multiple of `10 ^ g` that stands for the number, if one of its two neighbours reads
back. -/
def onGrid? (tie : Tie) (range : Interval) (u g : Int) : Option Nat :=
  let scaleI := powerUp 2 u * powerDown 10 g
  let scaleC := powerUp 10 g * powerDown 2 u
  let below := range.middle * scaleI / scaleC
  match range.contains scaleI scaleC below, range.contains scaleI scaleC (below + 1) with
  | true, true => some (roundDiv tie (range.middle * scaleI) scaleC)
  | true, false => some below
  | false, true => some (below + 1)
  | false, false => none

/-- Largest `k` with `10 ^ k ≤ m * 2 ^ q`, for positive `m`. -/
def leadingExponent (m : Nat) (q : Int) : Int :=
  let guess := ((m.log2 : Int) + q) * 1233 / 4096
  let reached (k : Int) : Bool :=
    powerUp 10 k * powerDown 2 q ≤ m * powerUp 2 q * powerDown 10 k
  if reached (guess + 1) then guess + 1
  else if reached guess then guess
  else guess - 1

/-- First hit among the grids with `count`, `count + 1`, … digits; `fuel` grids are tried. -/
def firstHit (tie : Tie) (range : Interval) (u lead : Int) : (fuel count : Nat) → Nat × Int
  | 0, count =>
      let g := lead + 1 - count
      (roundDiv tie (range.middle * (powerUp 2 u * powerDown 10 g))
        (powerUp 10 g * powerDown 2 u), g)
  | fuel + 1, count =>
      let g := lead + 1 - count
      match onGrid? tie range u g with
      | some c => (c, g)
      | none => firstHit tie range u lead fuel (count + 1)

/-- The fewest digits that read back as `m * 2 ^ q`, for positive `m`. -/
def shortest (tie : Tie) (m : Nat) (q : Int) : Digits :=
  let lead := leadingExponent m q
  let (c, g) := firstHit tie (interval m q) (q - 2) lead 16 1
  let digits := digitsOf c
  let kept := (digits.reverse.dropWhile (· == '0')).reverse
  ⟨kept, g + digits.length - 1⟩

end Shortest

section Rounded

/-- The first `count` digits of `m * 2 ^ q`, for positive `m`, rounded and without zeros at the
end. -/
def rounded (tie : Tie) (count m : Nat) (q : Int) : Digits :=
  let g := leadingExponent m q + 1 - count
  let digits := digitsOf
    (roundDiv tie (m * powerUp 2 q * powerDown 10 g) (powerUp 10 g * powerDown 2 q))
  ⟨(digits.reverse.dropWhile (· == '0')).reverse, g + digits.length - 1⟩

end Rounded

section Fixed

/-- `m * 2 ^ q` in units of `10 ^ (-places)`, rounded. -/
def fixedUnits (places m : Nat) (q : Int) : Nat :=
  roundDiv .toEven (m * powerUp 2 q * 10 ^ places) (powerDown 2 q)

/-- Digits on the left filled up with zeros to a least length. -/
def padZeros (length : Nat) (digits : List Char) : List Char :=
  List.replicate (length - digits.length) '0' ++ digits

/-- A natural number of units of `10 ^ (-places)`, with a point. -/
def withPoint (places units : Nat) : List Char :=
  let digits := padZeros (places + 1) (digitsOf units)
  let whole := digits.take (digits.length - places)
  if places = 0 then whole else whole ++ '.' :: digits.drop (digits.length - places)

end Fixed

end Decimal
end Likeness
