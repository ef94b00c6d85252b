import Likeness.Store.Cell

/-!
# Arithmetic on cells

Any cell can be taken for a number, for a whole number, for a text, or for a truth value.  A text
is the number that it starts with.  What nothing takes part in is nothing.

Whole numbers that grow beyond their limits become double precision numbers.
-/

namespace Likeness
namespace Cell

section Readings

/-- A cell as a text, if there is something in it. -/
def text? : Cell → Option String
  | .null => none
  | .integer value => some (toString value)
  | .real value => some value.general
  | .text value => some value
  | .garbled bytes | .blob bytes => some (Utf8.shown ⟨bytes.toArray⟩)

def number : Cell → Cell
  | .null => .null
  | .integer value => .integer value
  | .real value => .real value
  | cell =>
      match numeralFrom? ((cell.text?).getD "").toList with
      | none => .integer 0
      | some (n, _) => if n.isPlain && fits n.integer then .integer n.integer else .real n.real

/-- A whole number, or the limit that it lies beyond. -/
def clamp (value : Int) : Int :=
  max (-integerLimit - 1) (min integerLimit value)

/-- A double precision number without its fraction. -/
def truncate (value : Binary64) : Int :=
  match value.magnitude? with
  | none => clamp (if value.isNegative then -2 ^ 64 else 2 ^ 64)
  | some (m, q) =>
      let size : Int := if 0 ≤ q then m * 2 ^ q.toNat else m / 2 ^ (-q).toNat
      clamp (if value.isNegative then -size else size)

def whole : Cell → Int
  | .null => 0
  | .integer value => value
  | .real value => truncate value
  | cell =>
      let (isNegative, rest) := cutSign (((cell.text?).getD "").toList.dropWhile isSpace)
      let size : Int := decimalOf (rest.takeWhile Char.isDigit)
      clamp (if isNegative then -size else size)

/-- A number as a double precision number. -/
def approximate : Cell → Binary64
  | .integer value => realOf value
  | .real value => value
  | _ => .zero

/-- Whether a cell counts as true, if there is something in it. -/
def truth? (cell : Cell) : Option Bool :=
  match cell.number with
  | .null => none
  | .integer value => some (value != 0)
  | number => some (!number.approximate.isZero)

/-- A truth value as a cell. -/
def ofTruth : Option Bool → Cell
  | none => .null
  | some truth => .integer (if truth then 1 else 0)

end Readings

section Operations

/-- The operations on two numbers. -/
inductive Operation
  | add
  | subtract
  | multiply
  | divide
  | remainder
  | bitAnd
  | bitOr
  | shiftLeft
  | shiftRight
  /-- One text behind the other. -/
  | join
deriving DecidableEq, Repr

/-- The result of an operation on double precision numbers. -/
def approximateResult (operation : Operation) (a b : Cell) : Cell :=
  let x := a.approximate.toFloat
  let y := b.approximate.toFloat
  match operation with
  | .add => ofReal (.ofFloat (x + y))
  | .subtract => ofReal (.ofFloat (x - y))
  | .multiply => ofReal (.ofFloat (x * y))
  | .divide => if b.approximate.isZero then .null else ofReal (.ofFloat (x / y))
  | _ => if b.whole = 0 then .null else .real (realOf (Int.tmod a.whole b.whole))

def arithmetic (operation : Operation) (a b : Cell) : Cell :=
  match a.number, b.number with
  | .null, _ | _, .null => .null
  | .integer x, .integer y =>
      let whole? : Option Int :=
        match operation with
        | .add => some (x + y)
        | .subtract => some (x - y)
        | .multiply => some (x * y)
        | .divide => if y = 0 then none else some (Int.tdiv x y)
        | _ => if y = 0 then none else some (Int.tmod x y)
      match whole? with
      | none => .null
      | some value =>
          if fits value then .integer value
          else approximateResult operation (.integer x) (.integer y)
  | x, y =>
      if operation = .remainder then approximateResult operation a b
      else approximateResult operation x y

/-- A whole number that comes around to the negative ones. -/
def wrap (value : Int) : Int :=
  Int.bmod value (2 ^ 64)

/-- A whole number with its bits moved to the left, or to the right if `count` is negative. -/
def shift (value count : Int) : Int :=
  if 0 ≤ count then if 64 ≤ count then 0 else wrap (value * 2 ^ count.toNat)
  else if count ≤ -64 then if value < 0 then -1 else 0
  else value / 2 ^ (-count).toNat

/-- The result of an operation on bits. -/
def bitwise (operation : Operation) (x y : Int) : Int :=
  let a := (x % 2 ^ 64).toNat
  let b := (y % 2 ^ 64).toNat
  match operation with
  | .bitAnd => wrap (a &&& b : Nat)
  | .bitOr => wrap (a ||| b : Nat)
  | .shiftLeft => shift x y
  | _ => shift x (-y)

/-- The result of an operation. -/
def combine (operation : Operation) (a b : Cell) : Cell :=
  match operation with
  | .join =>
      match a.text?, b.text? with
      | some x, some y => .text (x ++ y)
      | _, _ => .null
  | .bitAnd | .bitOr | .shiftLeft | .shiftRight =>
      if a = .null ∨ b = .null then .null else .integer (bitwise operation a.whole b.whole)
  | _ => arithmetic operation a b

end Operations

section Casting

/-- A cell turned into another kind, whatever is lost. -/
def cast (affinity : Affinity) (cell : Cell) : Cell :=
  match cell with
  | .null => .null
  | cell =>
      match affinity with
      | .integer => .integer cell.whole
      | .real => .real cell.number.approximate
      | .text => .text ((cell.text?).getD "")
      | .numeric =>
          match cell with
          | .integer _ | .real _ => cell
          | cell => Affinity.numeric.keep cell.number
      | .untouched =>
          match cell with
          | .blob bytes => .blob bytes
          | cell => .blob ((cell.text?).getD "").toUTF8.toList

end Casting

end Cell
end Likeness
