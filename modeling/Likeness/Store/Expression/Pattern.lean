/-!
# Patterns

A pattern is a text in which some signs stand for any character or for any text.  There are two
ways to write patterns: in one of them letters of either case are the same, and the other one has
sets of characters between brackets.

`Pattern.covers` says whether a text is one that a pattern stands for.
-/

namespace Likeness

/-- A part of a pattern. -/
inductive PatternPart
  /-- Any text. -/
  | anyText
  /-- Any character. -/
  | anyChar
  | exactly (c : Char)
  /-- A character in one of some ranges, or in none of them. -/
  | within (isOutside : Bool) (ranges : List (Char × Char))
  /-- What no text agrees with. -/
  | never
deriving DecidableEq, Repr

/-- What texts are compared with. -/
structure Pattern where
  parts : List PatternPart
  /-- Whether letters of either case are the same. -/
  isCaseless : Bool
deriving DecidableEq, Repr

namespace Pattern

section Reading

/-- The parts of a pattern without sets.  A character behind the one that escapes stands for
itself. -/
def plainParts (escape? : Option Char) : List Char → List PatternPart
  | [] => []
  | [c] =>
      if some c = escape? then [.never]
      else if c = '%' then [.anyText]
      else if c = '_' then [.anyChar]
      else [.exactly c]
  | c :: d :: rest =>
      if some c = escape? then .exactly d :: plainParts escape? rest
      else
        (if c = '%' then .anyText else if c = '_' then .anyChar else .exactly c)
          :: plainParts escape? (d :: rest)

/-- The ranges of a set up to its closing bracket, and what follows. -/
def ranges : List Char → Option (List (Char × Char) × List Char)
  | [] => none
  | ']' :: rest => some ([], rest)
  | low :: '-' :: high :: rest =>
      if high = ']' then
        (ranges ('-' :: high :: rest)).map (fun (others, rest) => ((low, low) :: others, rest))
      else (ranges rest).map (fun (others, rest) => ((low, high) :: others, rest))
  | c :: rest => (ranges rest).map (fun (others, rest) => ((c, c) :: others, rest))

/-- A set from behind its opening bracket, and what follows.  A closing bracket in front belongs
to the set. -/
def set? (s : List Char) : Option (PatternPart × List Char) :=
  let (isOutside, s) := if s.head? = some '^' then (true, s.drop 1) else (false, s)
  let (first, s) := if s.head? = some ']' then ([(']', ']')], s.drop 1) else ([], s)
  (ranges s).map (fun (others, rest) => (.within isOutside (first ++ others), rest))

/-- The parts of a pattern with sets, which has at most `fuel` characters. -/
def setParts : (fuel : Nat) → List Char → List PatternPart
  | 0, _ | _, [] => []
  | fuel + 1, c :: rest =>
      if c = '*' then .anyText :: setParts fuel rest
      else if c = '?' then .anyChar :: setParts fuel rest
      else if c = '[' then
        match set? rest with
        | some (part, rest) => part :: setParts fuel rest
        | none => [.never]
      else .exactly c :: setParts fuel rest

/-- The pattern that a text stands for in the way without sets. -/
def like (escape? : Option Char) (text : String) : Pattern :=
  ⟨plainParts escape? text.toList, true⟩

/-- The pattern that a text stands for in the way with sets. -/
def glob (text : String) : Pattern :=
  ⟨setParts text.length text.toList, false⟩

end Reading

section Matching

/-- Whether two characters count as the same. -/
def sameChar (isCaseless : Bool) (a b : Char) : Bool :=
  a == b || (isCaseless && a.toLower == b.toLower)

/-- Whether a character agrees with a part. -/
def admits (isCaseless : Bool) (part : PatternPart) (c : Char) : Bool :=
  match part with
  | .anyChar => true
  | .exactly d => sameChar isCaseless c d
  | .within isOutside ranges =>
      isOutside != ranges.any (fun (low, high) => low ≤ c && c ≤ high)
  | .anyText | .never => false

/-- What is left of some characters when a number of them is taken off the front. -/
def suffixes : List Char → List (List Char)
  | [] => [[]]
  | c :: s => (c :: s) :: suffixes s

def agree (isCaseless : Bool) : List PatternPart → List Char → Bool
  | [], s => s.isEmpty
  | .anyText :: parts, s => (suffixes s).any (agree isCaseless parts)
  | part :: parts, c :: s => admits isCaseless part c && agree isCaseless parts s
  | _ :: _, [] => false

/-- Whether a text is one that a pattern stands for. -/
def covers (pattern : Pattern) (text : String) : Bool :=
  agree pattern.isCaseless pattern.parts text.toList

end Matching

end Pattern
end Likeness
