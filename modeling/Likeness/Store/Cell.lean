import Likeness.Binary64.Text
import Likeness.Text.Encoding

/-!
# Cells

A cell of a table holds nothing, a whole number, a double precision number, a text, or bytes.
Cells are ordered: nothing comes first, then numbers by their values, texts by a collation, and
bytes.

A column has an affinity for a kind of cell, and turns what it is given into that kind if
nothing is lost: `Affinity.keep`.
-/

namespace Likeness

/-- What stands in one place of a table. -/
inductive Cell
  | null
  | integer (value : Int)
  | real (value : Binary64)
  | text (value : String)
  /-- A text whose bytes are not UTF-8. -/
  | garbled (bytes : List UInt8)
  | blob (bytes : List UInt8)
deriving DecidableEq, Repr, Inhabited

/-- The order of texts. -/
inductive Collation
  /-- By their bytes in an encoding. -/
  | plain (encoding : Encoding)
  /-- Letters of either case are the same. -/
  | caseless
  /-- Blanks at the end do not count. -/
  | trimmed
deriving DecidableEq, Repr, Inhabited

/-- The kind of cell that a column turns what it is given into. -/
inductive Affinity
  | untouched
  | text
  | numeric
  | integer
  | real
deriving DecidableEq, Repr, Inhabited

namespace Collation

/-- The order of lists of bytes. -/
def orderBytes (a b : List UInt8) : Ordering :=
  if a < b then .lt else if a = b then .eq else .gt

/-- The bytes without the blanks at their end. -/
def withoutEnd (bytes : List UInt8) : List UInt8 :=
  (bytes.reverse.dropWhile (fun byte => byte == 32)).reverse

/-- A capital letter as a small one. -/
def smallByte (byte : UInt8) : UInt8 :=
  if 65 ≤ byte ∧ byte ≤ 90 then byte + 32 else byte

/-- The order of two texts that are given by their bytes in UTF-8. -/
def orderRaw (collation : Collation) (a b : List UInt8) : Ordering :=
  match collation with
  | .plain _ => orderBytes a b
  | .caseless => orderBytes (a.map smallByte) (b.map smallByte)
  | .trimmed => orderBytes (withoutEnd a) (withoutEnd b)

/-- The order of two texts.  In UTF-8, bytes are in the order of code points. -/
def order (collation : Collation) (a b : String) : Ordering :=
  match collation with
  | .plain .utf8 => compare a b
  | .plain encoding => orderBytes (encoding.encode a) (encoding.encode b)
  | collation => collation.orderRaw a.toUTF8.toList b.toUTF8.toList

end Collation

namespace Cell

def kind : Cell → String
  | .null => "Null"
  | .integer _ => "Integer"
  | .real _ => "Real"
  | .text _ | .garbled _ => "Text"
  | .blob _ => "Blob"

def isText : Cell → Bool
  | .text _ | .garbled _ => true
  | _ => false

section Order

/-- The place of a kind among the kinds. -/
def rank : Cell → Nat
  | .null => 0
  | .integer _ | .real _ => 1
  | .text _ | .garbled _ => 2
  | .blob _ => 3

def bytes : Cell → List UInt8
  | .text value => value.toUTF8.toList
  | .garbled bytes | .blob bytes => bytes
  | _ => []

/-- A number `m * 2 ^ q` as the pair `(m, q)`.  An infinite number counts as one beyond all
others. -/
def scaled : Cell → Int × Int
  | .integer value => (value, 0)
  | .real value =>
      let (m, q) := value.magnitude?.getD (1, 2000)
      (if value.isNegative then -m else m, q)
  | _ => (0, 0)

def orderNumbers (a b : Cell) : Ordering :=
  let (m, p) := a.scaled
  let (n, q) := b.scaled
  let least := min p q
  compare (m * 2 ^ (p - least).toNat) (n * 2 ^ (q - least).toNat)

def order (collation : Collation) : Cell → Cell → Ordering
  | .integer a, .integer b => compare a b
  | .text a, .text b => collation.order a b
  | a, b =>
      (compare a.rank b.rank).then
        (match a.rank with
        | 0 => .eq
        | 1 => orderNumbers a b
        | 2 => collation.orderRaw a.bytes b.bytes
        | _ => Collation.orderBytes a.bytes b.bytes)

/-- Whether two cells are the same for a question or a key.  Nothing is the same as
nothing else. -/
def agrees (collation : Collation) (a b : Cell) : Bool :=
  a != .null && b != .null && a.order collation b == .eq

end Order

section Numbers

/-- The largest whole number of a cell. -/
def integerLimit : Int := 2 ^ 63 - 1

/-- Whether a whole number fits a cell. -/
def fits (value : Int) : Bool :=
  decide (-integerLimit - 1 ≤ value ∧ value ≤ integerLimit)

/-- A cell with a double precision number.  What is not a number is nothing. -/
def ofReal (value : Binary64) : Cell :=
  if value.isNaN then .null else .real value

/-- The double precision number nearest to a whole number. -/
def realOf (value : Int) : Binary64 :=
  if value < 0 then .ofFloat (-(Float.ofNat value.natAbs)) else .ofNat value.natAbs

/-- The whole number that a double precision number is, unless it is at the limits. -/
def wholeOf? (value : Binary64) : Option Int := do
  let (m, q) ← value.magnitude?
  let size := if 0 ≤ q then m * 2 ^ q.toNat else m / 2 ^ (-q).toNat
  if q < 0 ∧ m % 2 ^ (-q).toNat ≠ 0 then none
  else
    let whole : Int := if value.isNegative then -size else size
    if -integerLimit ≤ whole ∧ whole < integerLimit then some whole else none

/-- A character that may stand around a number in a text. -/
def isSpace (c : Char) : Bool :=
  c == ' ' || (9 ≤ c.toNat && c.toNat ≤ 13)

/-- The parts of a number in a text. -/
structure Numeral where
  isNegative : Bool
  whole : List Char
  fraction : List Char
  exponent : Int
  /-- Whether it is written as a whole number. -/
  isPlain : Bool

/-- A sign, and what stands behind it. -/
def cutSign : List Char → Bool × List Char
  | '-' :: rest => (true, rest)
  | '+' :: rest => (false, rest)
  | rest => (false, rest)

def decimalOf (digits : List Char) : Nat :=
  digits.foldl (fun number c => 10 * number + (c.toNat - '0'.toNat)) 0

/-- The number that a text starts with behind blanks, and what follows it. -/
def numeralFrom? (text : List Char) : Option (Numeral × List Char) :=
  let (isNegative, rest) := cutSign (text.dropWhile isSpace)
  let whole := rest.takeWhile Char.isDigit
  let rest := rest.dropWhile Char.isDigit
  let (hasPoint, rest) := match rest with
    | '.' :: rest => (true, rest)
    | rest => (false, rest)
  let fraction := if hasPoint then rest.takeWhile Char.isDigit else []
  let rest := if hasPoint then rest.dropWhile Char.isDigit else rest
  let (exponent?, rest) := match rest with
    | c :: tail =>
        if c.toLower = 'e' then
          let (isDown, digits) := cutSign tail
          let size : Int := decimalOf (digits.takeWhile Char.isDigit)
          if (digits.head?).any Char.isDigit then
            (some (if isDown then -size else size), digits.dropWhile Char.isDigit)
          else (none, rest)
        else (none, rest)
    | [] => (none, [])
  if whole.isEmpty && fraction.isEmpty then none
  else
    some (⟨isNegative, whole, fraction, exponent?.getD 0, !hasPoint && exponent?.isNone⟩, rest)

/-- The number that a text holds between blanks. -/
def numeral? (text : List Char) : Option Numeral :=
  ((numeralFrom? text).filter (fun (_, rest) => rest.all isSpace)).map Prod.fst

/-- The whole number of a numeral without a fraction. -/
def Numeral.integer (n : Numeral) : Int :=
  if n.isNegative then -(decimalOf n.whole) else decimalOf n.whole

/-- The double precision number of a numeral. -/
def Numeral.real (n : Numeral) : Binary64 :=
  let digits := decimalOf (n.whole ++ n.fraction)
  let exponent := n.exponent - n.fraction.length
  let size :=
    if digits = 0 ∨ exponent < -2000 then 0.0
    else if 2000 < exponent then Float.ofScientific 1 false 2000
    else Float.ofScientific digits (exponent < 0) exponent.natAbs
  .ofFloat (if n.isNegative then -size else size)

/-- The number that a text stands for: a whole one if nothing is lost. -/
def numberOf? (text : String) : Option Cell := do
  let n ← numeral? text.toList
  if n.isPlain && fits n.integer then some (.integer n.integer)
  else
    match wholeOf? n.real with
    | some whole => some (.integer whole)
    | none => some (.real n.real)

end Numbers

end Cell

namespace Affinity

/-- Whether a column turns texts into numbers. -/
def isNumeric : Affinity → Bool
  | .numeric | .integer | .real => true
  | _ => false

/-- A cell as a column keeps it. -/
def keep (affinity : Affinity) : Cell → Cell
  | .null => .null
  | .integer value =>
      match affinity with
      | .text => .text (toString value)
      | .real => .real (Cell.realOf value)
      | _ => .integer value
  | .real value =>
      match affinity with
      | .text => .text value.general
      | .real => if value.isZero then .real .zero else .real value
      | .numeric | .integer => ((Cell.wholeOf? value).map Cell.integer).getD (.real value)
      | .untouched => .real value
  | .text value =>
      if affinity.isNumeric then
        match Cell.numberOf? value with
        | some (.integer whole) =>
            if affinity = .real then .real (Cell.realOf whole) else .integer whole
        | some number => number
        | none => .text value
      else .text value
  | cell => cell

/-- Whether one of some words occurs in a text. -/
def mentions (text : String) (words : List String) : Bool :=
  words.any (fun word => 1 < (text.splitOn word).length)

/-- The affinity of a column by the name of its type, in small letters. -/
def ofType (name : String) : Affinity :=
  if name.isEmpty then .untouched
  else if mentions name ["int"] then .integer
  else if mentions name ["char", "clob", "text"] then .text
  else if mentions name ["blob"] then .untouched
  else if mentions name ["real", "floa", "doub"] then .real
  else .numeric

end Affinity
end Likeness
