import Likeness.Json.Reader

/-!
# Numbers in a JSON text

A numeral has a whole part without needless zeros, and possibly a fraction and an
exponent.  `scanNumeral` takes it off the text; only then is its value computed, and only
where the value is wanted.

**Value.**  The significand is built from as many leading digits as it can hold in 64
bits.  Whole digits that are left over are counted, and from there on the digits of the
fraction continue the significand as long as they still fit.  A numeral with neither a
fraction nor an exponent and with no digit left over is an integer if it fits 64 bits with
its sign; anything else, minus zero included, is the significand times or divided by a power
of ten, each of the two steps rounded.
-/

namespace Likeness
namespace Json

/-- A number as it is read. -/
inductive Number
  | integer (value : Int)
  | real (value : Binary64)
deriving DecidableEq, Repr

/-- A number as a value that stands in the wrong place. -/
def Number.found : Number → Found
  | .integer value => .integer value
  | .real value => .real value

/-- The parts of a numeral behind its sign. -/
structure Numeral where
  whole : List Char
  fraction? : Option (List Char)
  /-- Whether the exponent is negative, and its digits. -/
  exponent? : Option (Bool × List Char)
deriving DecidableEq, Repr

def isDigit (c : Char) : Bool :=
  '0' ≤ c && c ≤ '9'

section Scanning

/-- The whole part.  `early` is the cause that a text which ends here is given. -/
def scanWhole (early : Cause) : List Char → Except Fault (List Char × List Char)
  | [] => .error (.before early [])
  | '0' :: s =>
      match s with
      | d :: _ => if isDigit d then .error (.within .badNumber s) else .ok (['0'], s)
      | [] => .ok (['0'], s)
  | c :: s =>
      if isDigit c then .ok (c :: s.takeWhile isDigit, s.dropWhile isDigit)
      else .error (.within .badNumber (c :: s))

def scanFraction (early : Cause) :
    List Char → Except Fault (Option (List Char) × List Char)
  | '.' :: s =>
      match s with
      | [] => .error (.within early [])
      | d :: rest =>
          if isDigit d then .ok (some (d :: rest.takeWhile isDigit), rest.dropWhile isDigit)
          else .error (.within .badNumber s)
  | s => .ok (none, s)

def scanExponentDigits (early : Cause) (negative : Bool) :
    List Char → Except Fault (Option (Bool × List Char) × List Char)
  | [] => .error (.before early [])
  | d :: s =>
      if isDigit d then
        .ok (some (negative, d :: s.takeWhile isDigit), s.dropWhile isDigit)
      else .error (.within .badNumber (d :: s))

def scanExponent (early : Cause) :
    List Char → Except Fault (Option (Bool × List Char) × List Char)
  | c :: s =>
      if c = 'e' ∨ c = 'E' then
        match s with
        | '+' :: s => scanExponentDigits early false s
        | '-' :: s => scanExponentDigits early true s
        | s => scanExponentDigits early false s
      else .ok (none, c :: s)
  | [] => .ok (none, [])

/-- A numeral without its sign. -/
def scanNumeral (early : Cause) (s : List Char) : Except Fault (Numeral × List Char) := do
  let (whole, s) ← scanWhole early s
  let (fraction?, s) ← scanFraction early s
  let (exponent?, s) ← scanExponent early s
  return (⟨whole, fraction?, exponent?⟩, s)

end Scanning

section Value

def significandLimit : Nat := 2 ^ 64 - 1

/-- Largest exponent that is told apart from larger ones. -/
def exponentLimit : Nat := 2 ^ 31 - 1

/-- Appends digits to a number as long as it stays within a limit, and leaves the rest. -/
def absorb (limit : Nat) (value : Nat) : List Char → Nat × List Char
  | [] => (value, [])
  | d :: digits =>
      let larger := value * 10 + (d.toNat - 48)
      if larger ≤ limit then absorb limit larger digits else (value, d :: digits)

/-- A power of ten, to the nearest double precision number. -/
def powerOfTen (k : Nat) : Float :=
  Float.ofScientific 1 false k

/-- `x / 10 ^ k`, in steps that a double precision number can hold. -/
def scaleDown (x : Float) (k : Nat) : Float :=
  if k ≤ 308 then x / powerOfTen k
  else if x == 0.0 then x
  else scaleDown (x / powerOfTen 308) (k - 308)
termination_by k

/-- `significand * 10 ^ exponent`, unless it is too large. -/
def scaled? (significand : Nat) (exponent : Int) : Option Float :=
  let x := Float.ofNat significand
  if exponent < 0 then some (scaleDown x exponent.natAbs)
  else if exponent ≤ 308 then
    let y := x * powerOfTen exponent.natAbs
    if y.isInf then none else some y
  else if significand = 0 then some x
  else none

/-- A double precision number with its sign. -/
def withSign (negative : Bool) (x : Float) : Number :=
  .real (.ofFloat (if negative then -x else x))

/-- The value of a number that is not an integer.  `rest` is the text behind it. -/
def Numeral.real (numeral : Numeral) (negative : Bool) (rest : List Char) :
    Except Fault Number :=
  let (head, dropped) := absorb significandLimit 0 numeral.whole
  let fraction := numeral.fraction?.getD []
  let (significand, unused) := absorb significandLimit head fraction
  let start : Int := (dropped.length : Int) - (fraction.length - unused.length : Nat)
  let finish (exponent : Int) : Except Fault Number :=
    match scaled? significand exponent with
    | some x => .ok (withSign negative x)
    | none => .error (.before .numberTooLarge rest)
  match numeral.exponent? with
  | none => finish start
  | some (falling, digits) =>
      match absorb exponentLimit 0 digits with
      | (exponent, []) =>
          finish (if falling then start - exponent else start + exponent)
      | (_, _ :: later) =>
          if significand ≠ 0 ∧ !falling then
            .error (.before .numberTooLarge (later ++ rest))
          else .ok (withSign negative 0.0)

/-- The value of a numeral with its sign.  `rest` is the text behind it. -/
def Numeral.value (numeral : Numeral) (negative : Bool) (rest : List Char) :
    Except Fault Number :=
  match numeral.fraction?, numeral.exponent?, absorb significandLimit 0 numeral.whole with
  | none, none, (n, []) =>
      if !negative then .ok (.integer n)
      else if n = 0 ∨ 2 ^ 63 < n then .ok (withSign true (Float.ofNat n))
      else .ok (.integer (-n))
  | _, _, _ => numeral.real negative rest

/-- A number, sign included. -/
def number : Reader Number
  | '-' :: s => do
      let (numeral, rest) ← scanNumeral .endInValue s
      let value ← numeral.value true rest
      return (value, rest)
  | s => do
      let (numeral, rest) ← scanNumeral .endInValue s
      let value ← numeral.value false rest
      return (value, rest)

end Value

end Json
end Likeness
