import Likeness.Store.Fault
import Likeness.Store.Statement.IndexStatement

/-!
# Catalogs

The first tree of a file lists what is in it: for each table and each index the root of its
tree, and the statement that made it.  An index that a table needs for a key of its own has no
statement.  There may be views and triggers, too, which have no tree.

`Catalog.ofLines` makes a catalog of the lines of that list, or says which one is senseless.
-/

namespace Likeness

/-- A line of the list of what is in a file. -/
structure CatalogLine where
  type? : Option String
  name? : Option String
  table? : Option String
  root? : Option String
  statement? : Option String
deriving DecidableEq, Repr

/-- An index of a table. -/
structure CatalogIndex where
  name : String
  root : Nat
  parts : List KeyPart
  /-- The rows that the index is for, if not all. -/
  condition? : Option Expression
deriving DecidableEq, Repr

/-- A table in a file. -/
structure CatalogTable where
  definition : Definition
  root : Nat
  /-- In the order in which they were made. -/
  indexes : List CatalogIndex
deriving DecidableEq, Repr

/-- What is in a file. -/
structure Catalog where
  tables : List CatalogTable
  /-- The names of views, and of tables that are kept elsewhere. -/
  views : List String
deriving DecidableEq, Repr

/-- Whether an index has a key for a row. -/
def CatalogIndex.concerns (index : CatalogIndex) (row : List Cell) : Bool :=
  index.condition?.all (Expression.holds row)

namespace CatalogTable

/-- A table with the indexes for its own keys, whose roots are not known yet.  A table that is
kept by its primary key is the index for that. -/
def ofDefinition (definition : Definition) (root : Nat) : CatalogTable :=
  ⟨definition, root, definition.keys.zipIdx.map (fun (key, k) =>
    ⟨"sqlite_autoindex_" ++ definition.name ++ "_" ++ toString (k + 1),
      if definition.isKeyed && key.isPrimary then root else 0, key.parts, none⟩)⟩

def ownIndexes (table : CatalogTable) : List CatalogIndex :=
  if table.definition.isKeyed then
    table.indexes.filter (fun index => index.root != table.root)
  else table.indexes

end CatalogTable

namespace Catalog

/-- Whether two names are the same, in letters of either case. -/
def sameName (a b : String) : Bool :=
  a.toLower == b.toLower

def table? (catalog : Catalog) (name : String) : Option CatalogTable :=
  catalog.tables.find? (fun table => sameName table.definition.name name)

def hasView (catalog : Catalog) (name : String) : Bool :=
  catalog.views.any (sameName name)

def hasIndex (catalog : Catalog) (name : String) : Bool :=
  catalog.tables.any (fun table => table.indexes.any (fun index => sameName index.name name))

section Statements

open Reading

/-- The kinds of statements that make something. -/
inductive Making
  | table
  | index (isUnique : Bool)
  | view
  | trigger
  /-- A table that is kept elsewhere. -/
  | foreign
deriving DecidableEq, Repr

/-- Reads the first words of a statement. -/
def making : Reading Making := do
  expect "create"
  if ← accepts "unique" then
    expect "index"
    return .index true
  else if ← accepts "index" then return .index false
  else if ← accepts "virtual" then
    expect "table"
    return .foreign
  else
    if !(← accepts "temp") then
      let _ ← accepts "temporary"
    match ← oneOf ["table", "view", "trigger"] with
    | "table" => return .table
    | "view" => return .view
    | _ => return .trigger

/-- Reads a name behind the first words: as it is, and as it is written. -/
def heading : Reading (String × String) := do
  if ← accepts "if" then
    expect "not"
    expect "exists"
  let first ← token Token.isName
  let last ← if ← accepts "." then token Token.isName else pure first
  return (last.value, first.raw)

/-- Reads the words of a trigger up to its table. -/
def triggerTable : (fuel : Nat) → Reading String
  | 0 => refuse
  | fuel + 1 => do
      match (← upcoming).head? with
      | none => refuse
      | some token =>
          skip
          if token.isKey "on" then name else triggerTable fuel

/-- Whether a line is about something of a given type and name, for a table. -/
def agrees (line : CatalogLine) (type name table : String) : Bool :=
  line.type?.any (sameName type) && line.name?.any (sameName name)
    && line.table?.any (sameName table)

/-- Demands that something holds, or else there is nothing further to say about the line. -/
def demand (holds : Bool) : Reading Unit :=
  if holds then pure () else object ""

/-- Demands that no table, view or index has a name yet. -/
def demandFree (catalog : Catalog) (name written : String) : Reading Unit := do
  if (catalog.table? name).isSome then object ("table " ++ written ++ " already exists")
  if catalog.hasView name then object ("view " ++ written ++ " already exists")
  if catalog.hasIndex name then object ("there is already an index named " ++ name)

def enterTable (encoding : Encoding) (catalog : Catalog) (line : CatalogLine) (root : Nat) :
    Reading Catalog := do
  let definition ← TableStatement.table encoding (fun name written => do
    demand (agrees line "table" name name && root != 1)
    demandFree catalog name written)
  return { catalog with tables := catalog.tables ++ [.ofDefinition definition root] }

/-- Where an index cannot be made. -/
def noTable (catalog : Catalog) (name : String) : String :=
  if catalog.hasView name then "views may not be indexed" else "no such table: main." ++ name

/-- Adds an index to its table. -/
def withIndex (encoding : Encoding) (catalog : Catalog) (line : CatalogLine) (root : Nat)
    (statement : IndexStatement) : Except String Catalog := do
  Outline.admitItems statement.items
  match catalog.table? statement.table with
  | none => throw (catalog.noTable statement.table)
  | some table =>
      if !agrees line "index" statement.name table.definition.name then throw ""
      if catalog.hasIndex statement.name then
        throw ("index " ++ statement.name ++ " already exists")
      let (definition, parts, condition?) ← statement.enter encoding table.definition
      if table.indexes.any (fun index => index.root == root) then throw "invalid rootpage"
      let index : CatalogIndex := ⟨statement.name, root, parts, condition?⟩
      let entered : CatalogTable := ⟨definition, table.root, table.indexes ++ [index]⟩
      return { catalog with tables := catalog.tables.map (fun other =>
        if sameName other.definition.name definition.name then entered else other) }

def enterIndex (encoding : Encoding) (catalog : Catalog) (line : CatalogLine) (root : Nat)
    (isUnique : Bool) : Reading Catalog := do
  let statement ← IndexStatement.statement encoding isUnique
  let catalog ← adopt catalog (catalog.withIndex encoding line root statement)
  TableStatement.finish
  return catalog

/-- Enters what a statement makes. -/
def enterMade (encoding : Encoding) (catalog : Catalog) (line : CatalogLine) (root : Nat) :
    Reading Catalog := do
  match ← making with
  | .table => enterTable encoding catalog line root
  | .index isUnique => enterIndex encoding catalog line root isUnique
  | .trigger =>
      let (name, _) ← heading
      let table ← triggerTable (← length)
      demand (agrees line "trigger" name table)
      settle
      return catalog
  | making =>
      let (name, written) ← heading
      demand (agrees line (if making = .view then "view" else "table") name name && root == 0)
      demandFree catalog name written
      settle
      return { catalog with views := catalog.views ++ [name] }

end Statements

section Lines

/-- The number that a text of digits stands for, if it fits four bytes. -/
def rootOf? (text : String) : Option Nat :=
  if !text.isEmpty && text.toList.all Char.isDigit then
    text.toNat?.filter (fun number => number < 2 ^ 32)
  else none

/-- The root that a line names, if the file has such a page. -/
def lineRoot? (pages : Nat) (line : CatalogLine) : Option Nat :=
  (line.root?.bind rootOf?).filter (fun root => root ≤ pages)

/-- Whether a statement is read: it starts as those do that make something. -/
def isRead (statement : String) : Bool :=
  (statement.toList.take 2).map Char.toLower == ['c', 'r']

/-- Enters the root of an index without a statement. -/
def enterRoot (pages : Nat) (catalog : Catalog) (line : CatalogLine) (name : String) :
    Except String Catalog := do
  let isNamed := fun index : CatalogIndex => sameName index.name name
  match catalog.tables.find? (fun table => table.indexes.any isNamed) with
  | none => throw "orphan index"
  | some table =>
      match (lineRoot? pages line).filter (fun root => 1 < root) with
      | none => throw "invalid rootpage"
      | some root =>
          if table.indexes.any (fun index => !isNamed index && index.root == root) then
            throw "invalid rootpage"
          let indexes := table.indexes.map (fun index =>
            if isNamed index then { index with root } else index)
          return { catalog with tables := catalog.tables.map (fun other =>
            if other.definition.name == table.definition.name then { table with indexes }
            else other) }

/-- Enters a line, or says what is wrong with it. -/
def enterLine (encoding : Encoding) (pages : Nat) (catalog : Catalog) (line : CatalogLine) :
    Except String Catalog := do
  if line.root?.isNone then throw ""
  let statement := line.statement?.getD ""
  if isRead statement then
    match lineRoot? pages line with
    | none => throw "invalid rootpage"
    | some root =>
        ((enterMade encoding catalog line root ⟨Token.scan statement, none⟩).map
          Prod.fst).mapError StatementFault.message
  else
    match line.name? with
    | none => throw ""
    | some name =>
        if statement.isEmpty then enterRoot pages catalog line name else throw ""

def ofLines (encoding : Encoding) (pages : Nat) (lines : List CatalogLine) :
    Except StoreRefusal Catalog :=
  lines.foldlM (fun catalog line =>
    (enterLine encoding pages catalog line).mapError
      (.senseless (line.name?.getD "?"))) ⟨[], []⟩

end Lines

end Catalog
end Likeness
