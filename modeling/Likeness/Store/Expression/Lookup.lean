import Likeness.Store.Expression.Basic
import Likeness.Store.Expression.Function
import Likeness.Store.Statement.Token

/-!
# Names in expressions

The names in an expression are looked up among the columns of a table: `Expression.lookUp?`.  What
cannot be used where the expression stands is refused.
-/

namespace Likeness

/-- What an expression is for. -/
inductive Usage
  /-- A rule that each row keeps. -/
  | rule
  /-- A cell of a key. -/
  | key
  /-- The rows that have a key. -/
  | condition
  /-- A cell that follows from others. -/
  | derivation
  /-- What stands for a cell that is not given.  It cannot use any column. -/
  | fallback
deriving DecidableEq, Repr

/-- The name for all expressions of a usage. -/
def Usage.name : Usage → String
  | .rule => "CHECK constraints"
  | .key => "index expressions"
  | .condition => "partial index WHERE clauses"
  | .derivation => "generated columns"
  | .fallback => "default values"

/-- The names that an expression can use. -/
structure Scope where
  table : String
  /-- The names of columns in small letters, with the affinities and the collations of these. -/
  columns : List (String × Affinity × Collation)
  /-- The column that numbers the rows. -/
  number? : Option Nat
  usage : Usage

namespace Scope

def column? (scope : Scope) (name : String) : Option Expression := do
  let k ← scope.columns.findIdx? (fun column => column.1 == name.toLower)
  let (_, affinity, collation) ← scope.columns[k]?
  return .place k affinity collation

/-- The number of the row, if that is what a name means.  It is not known unless a column has
it. -/
def rowNumber? (scope : Scope) (name : String) : Option Expression :=
  if ["rowid", "_rowid_", "oid"].contains name.toLower
      && (scope.usage == .rule || scope.usage == .condition) then
    some (((scope.number?.bind (fun k => scope.columns[k]?)).bind (fun column =>
      scope.column? column.1)).getD (.constant .null))
  else none

/-- The truth value that a name means. -/
def truth? (raw : String) : Option Bool :=
  if raw.toLower = "true" then some true else if raw.toLower = "false" then some false else none

/-- What a name stands for.  One between double quotes stands for a text if there is no such
column. -/
def name? (scope : Scope) (raw : String) : Except String Expression :=
  let name := Token.unquoted raw
  match (scope.column? name).or (scope.rowNumber? name) with
  | some found => .ok found
  | none =>
      if raw.startsWith "\"" ∧ scope.usage ≠ .fallback then .ok (.constant (.text name))
      else
        match truth? raw with
        | some truth => .ok (.constant (.ofTruth (some truth)))
        | none => .error ("no such column: " ++ name)

/-- What a name of a column of a table stands for. -/
def qualified? (scope : Scope) (table column : String) : Except String Expression :=
  match if table.toLower = scope.table.toLower then
      (scope.column? column).or (scope.rowNumber? column) else none with
  | some found => .ok found
  | none => .error ("no such column: " ++ table ++ "." ++ column)

/-- Refuses something. -/
def prohibited {α : Type} (scope : Scope) (what : String) : Except String α :=
  .error (what ++ " prohibited in " ++ scope.usage.name)

/-- Refuses a function that cannot be used. -/
def admitCall (scope : Scope) (function : String) (count : Nat) : Except String Unit := do
  let name := function.toLower
  if scope.usage = .fallback then return ()
  if Function.isMisused name count then
    throw ("misuse of aggregate function " ++ function ++ "()")
  if Function.isMiscounted name count then
    throw ("wrong number of arguments to function " ++ function ++ "()")
  if scope.usage ≠ .rule ∧ Function.isUnsettled name then
    scope.prohibited "non-deterministic functions"

/-- Whether an expression is a truth value by its name, and no column. -/
def truthOf? (scope : Scope) : Expression → Option Bool
  | .name raw => if (scope.column? raw).isSome then none else truth? raw
  | _ => none

/-- Whether a cell counts as true, or as false; nothing counts as neither. -/
def tested (operand : Expression) (wanted : Bool) : Expression :=
  let yes : Expression := .constant (.integer 1)
  let no : Expression := .constant (.integer 0)
  if wanted then .ifElse operand yes no
  else .ifElse (.isNull operand) no (.ifElse operand no yes)

end Scope

open Scope

mutual

/-- An expression with all names looked up. -/
def Expression.lookUp? (scope : Scope) : Expression → Except String Expression
  | .constant cell => .ok (.constant cell)
  | .name raw => scope.name? raw
  | .outside what =>
      if scope.usage = .fallback ∧ what = "parameters" then .ok (.constant .null)
      else scope.prohibited what
  | .qualified table column => scope.qualified? table column
  | .place k affinity collation => .ok (.place k affinity collation)
  | .plus operand => return .plus (← operand.lookUp? scope)
  | .negated operand => return .negated (← operand.lookUp? scope)
  | .complement operand => return .complement (← operand.lookUp? scope)
  | .opposite operand => return .opposite (← operand.lookUp? scope)
  | .isNull operand => return .isNull (← operand.lookUp? scope)
  | .combined operation left right =>
      return .combined operation (← left.lookUp? scope) (← right.lookUp? scope)
  | .compared comparison left right =>
      return .compared comparison (← left.lookUp? scope) (← right.lookUp? scope)
  | .same left right => do
      match truthOf? scope right with
      | some truth => return tested (← left.lookUp? scope) truth
      | none => return .same (← left.lookUp? scope) (← right.lookUp? scope)
  | .both left right => return .both (← left.lookUp? scope) (← right.lookUp? scope)
  | .either left right => return .either (← left.lookUp? scope) (← right.lookUp? scope)
  | .oneOf operand options =>
      return .oneOf (← operand.lookUp? scope) (← options.lookUp? scope)
  | .ifElse test yes no =>
      return .ifElse (← test.lookUp? scope) (← yes.lookUp? scope) (← no.lookUp? scope)
  | .cast affinity operand => return .cast affinity (← operand.lookUp? scope)
  | .collated collation operand => return .collated collation (← operand.lookUp? scope)
  | .call function arguments => do
      scope.admitCall function arguments.toList.length
      return .call function (← arguments.lookUp? scope)

/-- Expressions with all names looked up. -/
def Arguments.lookUp? (scope : Scope) : Arguments → Except String Arguments
  | .done => .ok .done
  | .more first rest => return .more (← first.lookUp? scope) (← rest.lookUp? scope)

end

/-- An expression that uses no column, with all names looked up. -/
def Expression.constant? (expression : Expression) : Option Expression :=
  (expression.lookUp? ⟨"", [], none, .fallback⟩).toOption

mutual

/-- The first function in an expression that there is not. -/
def Expression.unknown? : Expression → Option String
  | .constant _ | .name _ | .outside _ | .qualified _ _ | .place _ _ _ => none
  | .plus operand | .negated operand | .complement operand | .opposite operand
  | .isNull operand | .cast _ operand | .collated _ operand => operand.unknown?
  | .combined _ left right | .compared _ left right | .same left right | .both left right
  | .either left right => left.unknown?.or right.unknown?
  | .oneOf operand options => operand.unknown?.or options.unknown?
  | .ifElse test yes no => (test.unknown?.or yes.unknown?).or no.unknown?
  | .call function arguments =>
      if Function.isKnown function.toLower then arguments.unknown? else some function

/-- The first function in some expressions that there is not. -/
def Arguments.unknown? : Arguments → Option String
  | .done => none
  | .more first rest => first.unknown?.or rest.unknown?

end

end Likeness
