import Likeness.Store.Expression.Lookup
import Likeness.Store.Expression.Value

/-!
# Definitions of tables

A table has columns, keys, references and rules.  A column has a name, an affinity and a collation;
it may require a value, and has one that stands for a value that is not given.  There are columns
whose cells follow from others.  No two rows agree in all columns of a key.  A reference asks for
a row of another table that agrees with some columns.  Every row keeps the rules.

`Definition.row` is the row that a table makes of what it is given, and `Definition.runs`,
`Definition.files` and `Definition.pairs` are the tables of a store.
-/

namespace Likeness

/-- What becomes of a row that breaks a rule.  Three words say that it is refused. -/
inductive Resolution
  | abort
  | fail
  | rollback
  /-- The row is left out. -/
  | leave
  /-- What is in the way is removed. -/
  | replace
deriving DecidableEq, Repr, Inhabited

/-- How a cell follows from others. -/
structure Derivation where
  expression : Expression
  /-- Whether it is kept like other cells, and not computed whenever it is needed. -/
  isKept : Bool
  /-- Whether it is there for a key only, and has no name. -/
  isHidden : Bool
deriving DecidableEq, Repr

/-- A column of a table. -/
structure Column where
  name : String
  /-- The name in small letters, under which it is looked up. -/
  key : String
  /-- The name of its type. -/
  type : String
  affinity : Affinity
  collation : Collation
  /-- What becomes of a row without a value, if one is required. -/
  required? : Option Resolution
  /-- What stands for a value that is not given. -/
  fallback : Cell
  /-- How its cells follow from others, if they do. -/
  derivation? : Option Derivation
deriving DecidableEq, Repr, Inhabited

/-- Whether the cells of a column are computed whenever they are needed. -/
def Column.isComputed (column : Column) : Bool :=
  column.derivation?.any (fun derivation => !derivation.isKept)

/-- Whether a column is there for a key only. -/
def Column.isHidden (column : Column) : Bool :=
  column.derivation?.any Derivation.isHidden

/-- A column of a key, by its place, and how its texts are compared. -/
structure KeyPart where
  place : Nat
  collation : Collation
  /-- Whether the order is turned around. -/
  isTurned : Bool
deriving DecidableEq, Repr, Inhabited

/-- Columns in which no two rows agree. -/
structure Key where
  parts : List KeyPart
  isPrimary : Bool
  /-- What becomes of a row that agrees with another one, if that is said. -/
  resolution? : Option Resolution
  /-- The index that was made for it; a table needs no name for its own keys. -/
  index : String
  /-- The rows that it is about, if not all. -/
  condition? : Option Expression
deriving DecidableEq, Repr, Inhabited

/-- A key of a table of its own, about all rows. -/
def Key.plain (parts : List KeyPart) (isPrimary : Bool) (resolution? : Option Resolution) : Key :=
  ⟨parts, isPrimary, resolution?, "", none⟩

/-- A rule that each row keeps. -/
structure Rule where
  /-- What it is called. -/
  label : String
  condition : Expression
deriving DecidableEq, Repr, Inhabited

/-- What becomes of a row when the one that it refers to goes away. -/
inductive Consequence
  /-- The other row cannot go away unless another one takes its place. -/
  | noAction
  /-- The other row cannot go away. -/
  | restrict
  /-- The row goes away as well. -/
  | cascade
  /-- The row refers to nothing from then on. -/
  | setNull
  /-- The row refers to what it refers to without being told. -/
  | setDefault
deriving DecidableEq, Repr, Inhabited

/-- Columns that agree with columns of a row of another table. -/
structure Reference where
  places : List Nat
  table : String
  /-- The columns of the other table in small letters; without any, its primary key. -/
  targets : List String
  consequence : Consequence
  /-- Whether it may be broken for a while. -/
  isPatient : Bool
deriving DecidableEq, Repr, Inhabited

/-- What a table is like. -/
structure Definition where
  name : String
  columns : List Column
  /-- In the order in which they were asked for. -/
  keys : List Key
  references : List Reference
  rules : List Rule
  /-- The column that numbers the rows, if there is one. -/
  number? : Option Nat
  /-- What becomes of a row with a number that another one has. -/
  numbering : Resolution
  /-- Whether rows are kept by their primary key and not by numbers. -/
  isKeyed : Bool
  /-- Whether each cell has to be of the type of its column. -/
  isStrict : Bool
deriving DecidableEq, Repr, Inhabited

namespace Definition

/-- The place of a column, by its name in small letters. -/
def place? (definition : Definition) (key : String) : Option Nat :=
  definition.columns.findIdx? (fun column => column.key == key && !column.isHidden)

/-- The column at a place. -/
def column (definition : Definition) (place : Nat) : Column :=
  definition.columns.getD place default

/-- A row in which the cells that follow from others are computed once. -/
def deriveOnce (definition : Definition) (row : List Cell) : List Cell :=
  List.zipWith (fun column cell =>
    match column.derivation? with
    | none => cell
    | some derivation => column.affinity.keep (derivation.expression.value row))
    definition.columns row

/-- A row with the cells that follow from others, also by way of each other. -/
def derive (definition : Definition) (row : List Cell) : List Cell :=
  (definition.columns.filterMap Column.derivation?).foldl (fun row _ =>
    definition.deriveOnce row) row

/-- The row that a table makes of what it is given. -/
def row (definition : Definition) (given : List (String × Cell)) : List Cell :=
  definition.columns.map (fun column =>
    column.affinity.keep ((given.lookup column.key).getD column.fallback))

/-- Whether some columns of a table are computed whenever they are needed. -/
def hasComputed (definition : Definition) : Bool :=
  definition.columns.any Column.isComputed

/-- The names in the expressions of a table. -/
def scope (definition : Definition) (usage : Usage) : Scope :=
  ⟨definition.name,
    (definition.columns.filter (fun column => !column.isHidden)).map (fun column =>
      (column.key, column.affinity, column.collation)),
    definition.number?, usage⟩

/-- Whether a row may take the place of others. -/
def replaces (definition : Definition) : Bool :=
  definition.numbering == .replace
    || definition.keys.any (fun key => key.resolution? == some .replace)

def primary? (definition : Definition) : Option Key :=
  match definition.number? with
  | some place =>
      some (.plain [⟨place, (definition.column place).collation, false⟩] true
        (some definition.numbering))
  | none => definition.keys.find? Key.isPrimary

section Standard

/-- A column of a given type with texts in UTF-8. -/
def plainColumn (type : String) (affinity : Affinity) (isRequired : Bool) (name : String) :
    Column :=
  ⟨name, name, type, affinity, .plain .utf8, if isRequired then some .abort else none, .null,
    none⟩

def textColumn : Bool → String → Column := plainColumn "TEXT" .text

def integerColumn : Bool → String → Column := plainColumn "INTEGER" .integer

def realColumn : Bool → String → Column := plainColumn "REAL" .real

def primaryKey (places : List Nat) : Key :=
  .plain (places.map (fun place => ⟨place, .plain .utf8, false⟩)) true none

/-- A reference to a run by its name. -/
def runReference : Reference :=
  ⟨[0], "runs", ["run_id"], .noAction, false⟩

def runs : Definition :=
  ⟨"runs",
    [textColumn false "run_id", textColumn true "run_hash",
      textColumn false "name", integerColumn true "timestamp",
      integerColumn true "tree_count", textColumn true "parameters"],
    [primaryKey [0]], [], [], none, .abort, false, false⟩

/-- The table of the identifiers of runs, by their places. -/
def files : Definition :=
  ⟨"run_files",
    [textColumn true "run_id", integerColumn true "position",
      textColumn true "file"],
    [primaryKey [0, 1]], [runReference], [], none, .abort, false, false⟩

/-- The table of the results of runs, by names. -/
def pairs : Definition :=
  ⟨"similarities",
    [textColumn true "run_id", textColumn true "file_a",
      textColumn true "file_b", realColumn true "similarity",
      integerColumn true "edit_distance"],
    [primaryKey [0, 1, 2]], [runReference], [], none, .abort, false, false⟩

end Standard

end Definition
end Likeness
