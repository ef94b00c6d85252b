import Likeness.Store.Statement.Outline
import Likeness.Store.Statement.Phrase

/-!
# Statements that make tables

A statement that makes a table names its columns, each with a type and with rules, and then
rules about several columns.  `TableStatement.table` reads the definition that it stands for.
-/

namespace Likeness
namespace TableStatement

open Reading

section Parts

/-- What becomes of a row that breaks a rule, if that is said. -/
def resolution : Reading (Option Resolution) := do
  if ← accepts "on" then
    expect "conflict"
    match ← oneOf ["rollback", "abort", "fail", "ignore", "replace"] with
    | "rollback" => return some .rollback
    | "fail" => return some .fail
    | "ignore" => return some .leave
    | "replace" => return some .replace
    | _ => return some .abort
  else return none

/-- The words for an order: whether it goes down. -/
def direction : Reading Bool := do
  if ← accepts "desc" then return true
  let _ ← accepts "asc"
  return false

/-- Reads a part of a key. -/
def keyItem (encoding : Encoding) : Reading KeyItem := do
  let term ← Phrase.expression encoding
  let isTurned ← direction
  if ← accepts "nulls" then return ⟨term, isTurned, some (← oneOf ["first", "last"])⟩
  else return ⟨term, isTurned, none⟩

/-- Reads the name of a column, which may be followed by a collation and an order. -/
def nameItem : Reading String := do
  let name ← name
  if ← accepts "collate" then
    let _ ← token Token.isTypeName
  let _ ← direction
  return name

/-- A word that stands for a text, or for a truth value. -/
def wordValue (token : Token) : Expression :=
  match if token.kind = .word then Scope.truth? token.raw else none with
  | some truth => .constant (.ofTruth (some truth))
  | none => .constant (.text token.value)

/-- Reads what stands for a value that is not given. -/
def fallback (encoding : Encoding) : Reading Expression := do
  if ← accepts "(" then
    let expression ← Phrase.expression encoding
    expect ")"
    return expression
  else if ← accepts "-" then return .negated (Phrase.term (← token Phrase.isTerm))
  else if ← accepts "+" then return Phrase.term (← token Phrase.isTerm)
  else
    let token ← token (fun token => Phrase.isTerm token || token.isWord)
    return if Phrase.isTerm token then Phrase.term token else wordValue token

/-- What happens to a row when one that it refers to goes away. -/
def consequence : Reading Consequence := do
  if ← accepts "set" then
    match ← oneOf ["null", "default"] with
    | "null" => return .setNull
    | _ => return .setDefault
  else if ← accepts "no" then
    expect "action"
    return .noAction
  else
    match ← oneOf ["cascade", "restrict"] with
    | "cascade" => return .cascade
    | _ => return .restrict

/-- Whether a rule may be broken for a while, from behind the word for that. -/
def patience : Reading Bool := do
  if ← accepts "initially" then
    return (← oneOf ["deferred", "immediate"]) == "deferred"
  else return false

/-- The rest of a reference: what happens to a row when the other one goes away. -/
def consequences : (fuel : Nat) → Consequence → Reading Consequence
  | 0, last => return last
  | fuel + 1, last => do
      if ← accepts "on" then
        let event ← oneOf ["insert", "delete", "update"]
        let next ← consequence
        consequences fuel (if event = "delete" then next else last)
      else if ← accepts "match" then
        let _ ← name
        consequences fuel last
      else return last

/-- What a reference asks for, from behind its own columns, and its table as it is written. -/
def target : Reading (Reference × String) := do
  let table ← token Token.isName
  let names ← if ← sees "(" then enclosed nameItem else pure []
  let consequence ← consequences (← length) .noAction
  return (⟨[], table.value, names.map String.toLower, consequence, false⟩, table.raw)

/-- Reads a rule between parentheses, and adds it. -/
def rule (encoding : Encoding) (outline : Outline) : Reading Outline := do
  expect "("
  let (condition, tokens) ← quoting (Phrase.expression encoding)
  match (← upcoming).head? with
  | none => refuse
  | some behind =>
      expect ")"
      return outline.addRule condition (Token.between tokens behind)

/-- Reads how the cells of the last column follow from others. -/
def derivation (encoding : Encoding) (outline : Outline) : Reading Outline := do
  expect "("
  let expression ← Phrase.expression encoding
  expect ")"
  if ← meets Token.isWord then
    let keeping ← token Token.isWord
    adopt outline (outline.setDerivation expression (some keeping.raw))
  else adopt outline (outline.setDerivation expression none)

end Parts

section Columns

/-- Reads the rule about the last column that starts with a given word. -/
def columnRule (encoding : Encoding) (outline : Outline) (word : String) : Reading Outline := do
  match word with
  | "constraint" => return { outline with label? := some (← name) }
  | "default" => adopt outline (outline.setFallback (← fallback encoding))
  | "null" =>
      let _ ← resolution
      return outline
  | "not" =>
      if ← accepts "deferrable" then
        let _ ← patience
        return outline.deferLast false
      expect "null"
      let resolution := (← resolution).getD .abort
      return outline.changeLast (fun column => { column with required? := some resolution })
  | "primary" =>
      expect "key"
      let isDown ← direction
      let resolution? ← resolution
      let isCounted ← accepts "autoincrement"
      let item := { outline.lastItem with isTurned := isDown }
      adopt outline (outline.demandPrimary [item] isDown resolution? isCounted)
  | "unique" =>
      let resolution? ← resolution
      adopt outline (outline.demandUnique [outline.lastItem] resolution?)
  | "check" => rule encoding outline
  | "references" =>
      let (target, written) ← target
      adopt outline (outline.demandReference [] target written)
  | "collate" =>
      let name ← token Token.isTypeName
      return outline.collate (Phrase.collationOf encoding name.value)
  | "deferrable" => return outline.deferLast (← patience)
  | "generated" =>
      expect "always"
      expect "as"
      derivation encoding outline
  | _ => derivation encoding outline

/-- The words that start a rule about a column. -/
def columnWords : List String :=
  ["constraint", "default", "null", "not", "primary", "unique", "check", "references",
    "collate", "deferrable", "generated", "as"]

/-- Reads the rules about the last column. -/
def columnRules (encoding : Encoding) : (fuel : Nat) → Outline → Reading Outline
  | 0, outline => return outline
  | fuel + 1, outline => do
      match ← seen? columnWords with
      | none => return outline
      | some word =>
          skip
          columnRules encoding fuel (← columnRule encoding outline word)

/-- Reads a column. -/
def column (encoding : Encoding) (outline : Outline) : Reading Outline := do
  let name ← name
  let (_, tokens) ← quoting Phrase.type
  let outline ← adopt outline (outline.addColumn encoding name (Token.span tokens))
  columnRules encoding (← length) outline

end Columns

section Tables

/-- The words that start a rule about a table. -/
def tableWords : List String := ["constraint", "primary", "unique", "check", "foreign"]

/-- Reads the rule about a table that starts with a given word. -/
def tableRule (encoding : Encoding) (outline : Outline) (word : String) : Reading Outline := do
  match word with
  | "constraint" => return { outline with label? := some (← name) }
  | "primary" =>
      expect "key"
      expect "("
      let items ← listed (keyItem encoding) (← length)
      let isCounted ← accepts "autoincrement"
      expect ")"
      let resolution? ← resolution
      adopt outline (outline.demandPrimary items false resolution? isCounted)
  | "unique" =>
      let items ← enclosed (keyItem encoding)
      let resolution? ← resolution
      adopt outline (outline.demandUnique items resolution?)
  | "check" =>
      let outline ← rule encoding outline
      let _ ← resolution
      return outline
  | _ =>
      expect "key"
      let names ← enclosed nameItem
      expect "references"
      let (target, written) ← target
      let next := outline.demandReference names target written
      if ← accepts "not" then
        expect "deferrable"
        let _ ← patience
        adopt outline next
      else if ← accepts "deferrable" then
        let isPatient ← patience
        adopt outline (next.map (fun outline => outline.deferLast isPatient))
      else adopt outline next

/-- Reads the rules about a table, with or without commas between them. -/
def tableRules (encoding : Encoding) : (fuel : Nat) → Outline → Reading Outline
  | 0, outline => return outline
  | fuel + 1, outline => do
      match ← seen? tableWords with
      | none => return outline
      | some word =>
          skip
          let outline ← tableRule encoding outline word
          if ← accepts "," then
            if (← seen? tableWords).isSome then
              tableRules encoding fuel { outline with label? := none }
            else refuse
          else tableRules encoding fuel outline

/-- Reads the columns of a table, and the rules about it. -/
def body (encoding : Encoding) : (fuel : Nat) → Outline → Reading Outline
  | 0, outline => return outline
  | fuel + 1, outline => do
      let outline ← column encoding outline
      if ← accepts "," then
        if (← seen? tableWords).isSome then tableRules encoding fuel outline
        else body encoding fuel outline
      else return outline

/-- Reads one of the words behind a table. -/
def option : Reading String := do
  if ← accepts "without" then
    let what ← token Token.isName
    if what.raw.toLower ≠ "rowid" then object ("unknown table option: " ++ what.raw)
    return "keyed"
  else
    let what ← token Token.isName
    if what.raw.toLower ≠ "strict" then object ("unknown table option: " ++ what.raw)
    return "strict"

/-- Reads the words behind a table, with commas between them. -/
def options : (fuel : Nat) → Reading (List String)
  | 0 => return []
  | fuel + 1 => do
      let first ← option
      if ← accepts "," then return first :: (← options fuel) else return [first]

/-- Whether a statement has come to its end. -/
def isOver : Reading Bool :=
  return (← upcoming).isEmpty || (← sees ";")

def finish : Reading Unit := do
  if ← isOver then settle else refuse

/-- Reads a statement that makes a table, from behind its first words.  A table of that name has to
be admitted, which is given by its value and as it is written. -/
def table (encoding : Encoding) (accept : String → String → Reading Unit) :
    Reading Definition := do
  if ← accepts "if" then
    expect "not"
    expect "exists"
  let first ← token Token.isName
  let last ← if ← accepts "." then token Token.isName else pure first
  accept last.value first.raw
  expect "("
  let outline ← body encoding (← length) (Outline.start last.value)
  expect ")"
  let options ← if ← isOver then pure [] else options (← length)
  let definition ← adopt outline.definition
    (outline.complete (options.contains "strict") (options.contains "keyed"))
  finish
  return definition

end Tables

end TableStatement
end Likeness
