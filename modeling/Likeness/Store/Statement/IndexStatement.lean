import Likeness.Store.Statement.TableStatement

/-!
# Statements that make indexes

A statement that makes an index names a table and columns of it, or expressions in the place of
columns.  An index may be for some rows only.

`IndexStatement.enter` adds to a definition what an index needs: columns whose cells are computed
for it, and a key if no two rows may agree.
-/

namespace Likeness

/-- What a statement that makes an index says. -/
structure IndexStatement where
  name : String
  table : String
  items : List KeyItem
  isUnique : Bool
  /-- The rows that the index is for, if not all. -/
  condition? : Option Expression
deriving DecidableEq, Repr

namespace IndexStatement

section Reading

open Reading

/-- Reads a statement that makes an index, from behind its first words. -/
def statement (encoding : Encoding) (isUnique : Bool) : Reading IndexStatement := do
  if ← accepts "if" then
    expect "not"
    expect "exists"
  let first ← Reading.name
  let name ← if ← accepts "." then Reading.name else pure first
  expect "on"
  let table ← Reading.name
  let items ← enclosed (TableStatement.keyItem encoding)
  let condition? ←
    if ← accepts "where" then some <$> Phrase.expression encoding else pure none
  return ⟨name, table, items, isUnique, condition?⟩

end Reading

section Entry

/-- The column whose cells are computed for a part of an index. -/
def hiddenColumn (expression : Expression) : Column :=
  let affinity :=
    match expression.affinity? with
    | some affinity => if affinity.isNumeric then .numeric else affinity
    | none => .untouched
  ⟨"", "", "", affinity, default, none, .null, some ⟨expression, false, true⟩⟩

/-- A definition with the columns that a part of an index needs, and that part. -/
def enterItem (encoding : Encoding) (definition : Definition) (item : KeyItem) :
    Except String (Definition × KeyPart) := do
  match ← item.named.lookUp? (definition.scope .key) with
  | .place place _ collation =>
      return (definition, ⟨place, item.collation?.getD collation, item.isTurned⟩)
  | expression =>
      let part : KeyPart :=
        ⟨definition.columns.length, item.collation?.getD (.plain encoding), item.isTurned⟩
      return ({ definition with columns := definition.columns ++ [hiddenColumn expression] }, part)

/-- A definition with the columns that some parts of an index need, and those parts. -/
def enterItems (encoding : Encoding) :
    Definition → List KeyItem → Except String (Definition × List KeyPart)
  | definition, [] => return (definition, [])
  | definition, item :: items => do
      let (definition, part) ← enterItem encoding definition item
      let (definition, parts) ← enterItems encoding definition items
      return (definition, part :: parts)

/-- A definition with what an index needs, the parts of the index, and the rows that it is for. -/
def enter (encoding : Encoding) (statement : IndexStatement) (definition : Definition) :
    Except String (Definition × List KeyPart × Option Expression) := do
  let condition? ← statement.condition?.mapM (fun condition =>
    condition.lookUp? (definition.scope .condition))
  let (definition, parts) ← enterItems encoding definition statement.items
  let key : Key := ⟨parts, false, some .abort, statement.name, condition?⟩
  let keys := if statement.isUnique then definition.keys ++ [key] else definition.keys
  return ({ definition with keys }, parts, condition?)

end Entry

end IndexStatement
end Likeness
