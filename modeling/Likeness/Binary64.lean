import Likeness.Instances

/-!
# Binary64 numbers by their bits

A similarity is a double precision number that is stored, hashed and ordered by its 64
bits.  `Binary64` keeps exactly those bits, so that all numbers that are not a number stay
apart, and passes to `Float` for arithmetic.

* `Binary64.magnitude?` reads a finite number as `m * 2 ^ q` with a natural `m`.
* `Binary64.rank` is the order of all bit patterns: negative before positive, minus zero
  just before zero, and what is not a number at both ends.
-/

namespace Likeness

/-- A double precision number, given by its bits. -/
structure Binary64 where
  bits : UInt64
deriving DecidableEq, Repr, Inhabited

namespace Binary64

/-- The number that arithmetic works on. -/
def toFloat (x : Binary64) : Float :=
  Float.ofBits x.bits

/-- The bits of a result of arithmetic. -/
def ofFloat (x : Float) : Binary64 :=
  ⟨x.toBits⟩

/-- The nearest double precision number. -/
def ofNat (n : Nat) : Binary64 :=
  ofFloat (Float.ofNat n)

def zero : Binary64 := ⟨0⟩

def one : Binary64 := ⟨0x3ff0000000000000⟩

def exponentField (x : Binary64) : Nat :=
  (x.bits >>> 52).toNat % 2 ^ 11

def fractionField (x : Binary64) : Nat :=
  x.bits.toNat % 2 ^ 52

/-- Whether the sign bit is set. -/
def isNegative (x : Binary64) : Bool :=
  x.bits >>> 63 == 1

/-- Neither infinite nor a number. -/
def isNaN (x : Binary64) : Bool :=
  x.exponentField == 2047 && x.fractionField != 0

/-- Infinite, with either sign. -/
def isInfinite (x : Binary64) : Bool :=
  x.exponentField == 2047 && x.fractionField == 0

/-- Zero, with either sign. -/
def isZero (x : Binary64) : Bool :=
  x.exponentField == 0 && x.fractionField == 0

/-- A finite number without its sign is `m * 2 ^ q` for the pair `(m, q)`. -/
def magnitude? (x : Binary64) : Option (Nat × Int) :=
  if x.exponentField = 2047 then none
  else if x.exponentField = 0 then some (x.fractionField, -1074)
  else some (x.fractionField + 2 ^ 52, (x.exponentField : Int) - 1075)

/-- Place of a bit pattern in the order of all bit patterns. -/
def rank (x : Binary64) : Int :=
  if x.isNegative then -1 - ((x.bits.toNat % 2 ^ 63 : Nat) : Int) else (x.bits.toNat : Int)

/-- The numerical order; nothing is comparable with what is not a number. -/
def le (x y : Binary64) : Bool :=
  decide (x.toFloat ≤ y.toFloat)

def add (x y : Binary64) : Binary64 :=
  ofFloat (x.toFloat + y.toFloat)

def mul (x y : Binary64) : Binary64 :=
  ofFloat (x.toFloat * y.toFloat)

def div (x y : Binary64) : Binary64 :=
  ofFloat (x.toFloat / y.toFloat)

end Binary64

end Likeness
