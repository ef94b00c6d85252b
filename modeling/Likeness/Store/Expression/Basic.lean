import Likeness.Store.Cell.Arithmetic

/-!
# Expressions

An expression stands for a cell that is computed from the cells of a row.  Rules about tables are
expressions, and so are columns whose cells follow from others.

Names of columns are looked up when all columns are known: `Expression.name` then gives way to
`Expression.place`.  `Expression.collation` is the order in which texts are compared that two
expressions stand for, and `Expression.aligned` turns their cells into ones that can be compared.
-/

namespace Likeness

/-- The ways to compare two cells. -/
inductive CellRelation
  | less
  | atMost
  | more
  | atLeast
  | equal
  | unequal
deriving DecidableEq, Repr

/-- Whether cells in a given order pass a comparison. -/
def CellRelation.holds : CellRelation → Ordering → Bool
  | .less, order => order == .lt
  | .atMost, order => order != .gt
  | .more, order => order == .gt
  | .atLeast, order => order != .lt
  | .equal, order => order == .eq
  | .unequal, order => order != .eq

mutual

/-- A rule for a cell. -/
inductive Expression
  | constant (cell : Cell)
  /-- A name that has not been looked up yet, as it is written. -/
  | name (raw : String)
  /-- What no rule can use: what it is called. -/
  | outside (what : String)
  /-- The name of a table, and one of a column of it. -/
  | qualified (table column : String)
  /-- The cell of a column, with its affinity and its collation. -/
  | place (place : Nat) (affinity : Affinity) (collation : Collation)
  /-- What has the value of another expression but not its affinity. -/
  | plus (operand : Expression)
  | negated (operand : Expression)
  /-- All bits turned around. -/
  | complement (operand : Expression)
  | opposite (operand : Expression)
  | isNull (operand : Expression)
  | combined (operation : Cell.Operation) (left right : Expression)
  | compared (comparison : CellRelation) (left right : Expression)
  /-- Whether two cells are the same, where nothing is the same as nothing else. -/
  | same (left right : Expression)
  | both (left right : Expression)
  | either (left right : Expression)
  | oneOf (operand : Expression) (options : Arguments)
  | ifElse (test yes no : Expression)
  | cast (affinity : Affinity) (operand : Expression)
  | collated (collation : Collation) (operand : Expression)
  /-- What a function makes of some cells. -/
  | call (function : String) (arguments : Arguments)
deriving DecidableEq, Repr

/-- Expressions in a row. -/
inductive Arguments
  | done
  | more (first : Expression) (rest : Arguments)
deriving DecidableEq, Repr

end

instance : Inhabited Expression := ⟨.constant .null⟩

namespace Arguments

/-- Some expressions in a row. -/
def ofList : List Expression → Arguments
  | [] => .done
  | first :: rest => .more first (ofList rest)

/-- The expressions of a row. -/
def toList : Arguments → List Expression
  | .done => []
  | .more first rest => first :: rest.toList

end Arguments

namespace Expression

section Traits

def affinity? : Expression → Option Affinity
  | .place _ affinity _ => some affinity
  | .cast affinity _ => some affinity
  | .collated _ operand => operand.affinity?
  | _ => none

/-- The collation that an expression asks for. -/
def wanted? : Expression → Option Collation
  | .collated collation _ => some collation
  | .plus operand | .cast _ operand | .negated operand | .complement operand =>
      operand.wanted?
  | .combined _ left right => left.wanted?.or right.wanted?
  | _ => none

/-- The collation of a column. -/
def natural? : Expression → Option Collation
  | .place _ _ collation => some collation
  | .plus operand | .cast _ operand => operand.natural?
  | _ => none

/-- The collation in which two expressions are compared. -/
def collation (left right : Expression) : Collation :=
  (((left.wanted?.or right.wanted?).or left.natural?).or right.natural?).getD default

/-- Two cells ready to be compared, as the affinities of their expressions ask for. -/
def aligned (left right : Option Affinity) (a b : Cell) : Cell × Cell :=
  let affinity? : Option Affinity :=
    match left, right with
    | some x, some y => if x.isNumeric || y.isNumeric then some .numeric else none
    | some x, none | none, some x => some x
    | none, none => none
  match affinity? with
  | none | some .untouched => (a, b)
  | some .text =>
      if a.isText || b.isText then (Affinity.text.keep a, Affinity.text.keep b) else (a, b)
  | some _ => (Affinity.numeric.keep a, Affinity.numeric.keep b)

end Traits

end Expression
end Likeness
