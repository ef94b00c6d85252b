import Likeness.Store.Expression.Basic
import Likeness.Store.Expression.Function

/-!
# Values of expressions

`Expression.value` is the cell that an expression stands for in a row.  A comparison with nothing
has no answer, and what it takes part in has one only if the rest of it settles that.
-/

namespace Likeness
namespace Expression

section Answers

/-- Both, where one of two answers can be missing. -/
def bothOf : Option Bool → Option Bool → Option Bool
  | some false, _ | _, some false => some false
  | some true, some true => some true
  | _, _ => none

/-- Either, where one of two answers can be missing. -/
def eitherOf : Option Bool → Option Bool → Option Bool
  | some true, _ | _, some true => some true
  | some false, some false => some false
  | _, _ => none

def compareCells (comparison : CellRelation) (left right : Expression) (a b : Cell) : Cell :=
  if a = .null ∨ b = .null then .null
  else
    let (a, b) := aligned left.affinity? right.affinity? a b
    .ofTruth (some (comparison.holds (a.order (collation left right) b)))

def sameCells (left right : Expression) (a b : Cell) : Bool :=
  let (a, b) := aligned left.affinity? right.affinity? a b
  a.order (collation left right) b == .eq

def amongCells (operand : Expression) (a : Cell) (cells : List Cell) : Cell :=
  if cells.isEmpty then .ofTruth (some false)
  else if a = .null then .null
  else
    let collation := operand.collation operand
    let isSame := fun b =>
      let (a, b) := aligned operand.affinity? none a b
      a.agrees collation b
    if cells.any isSame then .ofTruth (some true)
    else if cells.contains .null then .null
    else .ofTruth (some false)

end Answers

end Expression

section Values

open Expression

mutual

def Expression.value (row : List Cell) : Expression → Cell
  | .constant cell => cell
  | .name _ | .qualified _ _ | .outside _ => .null
  | .place k _ _ => row.getD k .null
  | .plus operand => operand.value row
  | .negated operand => Cell.combine .subtract (.integer 0) (operand.value row)
  | .complement operand =>
      match operand.value row with
      | .null => .null
      | cell => .integer (-1 - cell.whole)
  | .opposite operand => .ofTruth ((operand.value row).truth?.map (!·))
  | .isNull operand => .ofTruth (some (operand.value row == .null))
  | .combined operation left right =>
      Cell.combine operation (left.value row) (right.value row)
  | .compared comparison left right =>
      compareCells comparison left right (left.value row) (right.value row)
  | .same left right => .ofTruth (some (sameCells left right (left.value row) (right.value row)))
  | .both left right =>
      .ofTruth (bothOf (left.value row).truth? (right.value row).truth?)
  | .either left right =>
      .ofTruth (eitherOf (left.value row).truth? (right.value row).truth?)
  | .oneOf operand options => amongCells operand (operand.value row) (options.values row)
  | .ifElse test yes no =>
      if (test.value row).truth? = some true then yes.value row else no.value row
  | .cast affinity operand => Cell.cast affinity (operand.value row)
  | .collated _ operand => operand.value row
  | .call function arguments =>
      let traits := arguments.toList.map (fun argument => argument.wanted?.or argument.natural?)
      let collation := (traits.findSome? id).getD default
      Function.result function.toLower collation (arguments.values row)

/-- The cells that expressions stand for in a row. -/
def Arguments.values (row : List Cell) : Arguments → List Cell
  | .done => []
  | .more first rest => first.value row :: rest.values row

end

end Values

namespace Expression

/-- Whether a row passes a rule: the rule does not say that it does not. -/
def admits (row : List Cell) (rule : Expression) : Bool :=
  (rule.value row).truth? != some false

/-- Whether a rule says that it holds for a row. -/
def holds (row : List Cell) (rule : Expression) : Bool :=
  (rule.value row).truth? == some true

end Expression
end Likeness
