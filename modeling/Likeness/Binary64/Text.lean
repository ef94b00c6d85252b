import Likeness.Binary64.Decimal

/-!
# Texts of numbers

Four formats are in use.  `plain` and `json` write the shortest digits, and differ in
where they put them: a `Layout` says which exponents are written positionally, whether a
whole number keeps a point, and where an exact half between two shortest texts goes.
`fixed` writes a given number of decimal places, and `general` fifteen digits at most.
-/

namespace Likeness
namespace Binary64

open Decimal

/-- The decisions of a format for shortest digits. -/
structure Layout where
  /-- Exponents of the first digit that are written without an exponent. -/
  positional : Int → Bool
  /-- What follows a whole number. -/
  whole : List Char
  /-- Where an exact half goes. -/
  tie : Tie

/-- Tables hold plain digits, however many there are. -/
def plainLayout : Layout :=
  ⟨fun _ => true, [], .up⟩

/-- Documents hold plain digits from `1e-5` up to below `1e16`, with a point in each. -/
def jsonLayout : Layout :=
  ⟨fun e => -5 ≤ e && e ≤ 15, ['.', '0'], .toEven⟩

/-- Digits with the point where it belongs. -/
def positionalText (layout : Layout) (d : Digits) : List Char :=
  let count := d.digits.length
  if d.exponent < 0 then
    '0' :: '.' :: (List.replicate (-d.exponent - 1).toNat '0' ++ d.digits)
  else
    let whole := d.exponent.toNat + 1
    if count ≤ whole then
      d.digits ++ List.replicate (whole - count) '0' ++ layout.whole
    else
      d.digits.take whole ++ '.' :: d.digits.drop whole

/-- Digits with a point behind the first and an exponent. -/
def exponentText (d : Digits) : List Char :=
  let fraction := match d.digits with
    | first :: second :: rest => first :: '.' :: second :: rest
    | short => short
  let sign := if d.exponent < 0 then ['-'] else ['+']
  fraction ++ 'e' :: (sign ++ digitsOf d.exponent.natAbs)

/-- Shortest text of a finite number without its sign. -/
def magnitudeText (layout : Layout) (m : Nat) (q : Int) : List Char :=
  if m = 0 then '0' :: layout.whole
  else
    let d := shortest layout.tie m q
    if layout.positional d.exponent then positionalText layout d else exponentText d

/-- A minus sign in front of the text of a negative number. -/
def signed (x : Binary64) (text : List Char) : List Char :=
  if x.isNegative then '-' :: text else text

/-- Text of a number that is not finite. -/
def specialText (x : Binary64) : List Char :=
  if x.isNaN then "NaN".toList else x.signed "inf".toList

def shortestText (layout : Layout) (x : Binary64) : List Char :=
  match x.magnitude? with
  | none => x.specialText
  | some (m, q) => x.signed (magnitudeText layout m q)

/-- Shortest digits without an exponent. -/
def plain (x : Binary64) : String :=
  String.ofList (x.shortestText plainLayout)

/-- Shortest digits as documents hold them; a number that is not finite is `null`. -/
def json (x : Binary64) : String :=
  if x.magnitude?.isNone then "null" else String.ofList (x.shortestText jsonLayout)

/-- The number rounded to a number of decimal places. -/
def fixed (places : Nat) (x : Binary64) : String :=
  match x.magnitude? with
  | none => String.ofList x.specialText
  | some (m, q) => String.ofList (x.signed (withPoint places (fixedUnits places m q)))

/-- Fifteen digits in the places where they belong, or with an exponent of two digits and more;
there is a point in any case. -/
def generalMagnitude (m : Nat) (q : Int) : List Char :=
  if m = 0 then "0.0".toList
  else
    let d := rounded .up 15 m q
    if -4 ≤ d.exponent ∧ d.exponent ≤ 14 then positionalText jsonLayout d
    else
      let fraction := match d.digits with
        | first :: rest => first :: '.' :: (if rest.isEmpty then ['0'] else rest)
        | [] => []
      fraction ++ 'e' :: (if d.exponent < 0 then '-' else '+')
        :: padZeros 2 (digitsOf d.exponent.natAbs)

/-- Fifteen digits at most, as cells with texts hold them. -/
def general (x : Binary64) : String :=
  match x.magnitude? with
  | none => if x.isNegative then "-Inf" else "Inf"
  | some (m, q) => String.ofList ((if m = 0 then id else x.signed) (generalMagnitude m q))

end Binary64
end Likeness
