import Likeness.Store.Definition

/-!
# Tables

A table has a definition and rows of cells, in the order of their numbers.  `Table.insert` adds
a row unless a required value is missing, a rule is broken, or a key is there already.

When the file that they are kept in has been damaged, some rows may be beyond reading.
-/

namespace Likeness

/-- Why a row cannot be added to a table, or cannot be looked for. -/
inductive TableFault
  /-- The table has no such column. -/
  | noColumn (table column : String)
  | noTable (name : String)
  /-- A value is given for a column whose cells follow from others. -/
  | derived (column : String)
  /-- A rule needs a function that there is not. -/
  | noFunction (name : String)
  /-- A required value is missing. -/
  | required (table column : String)
  /-- A rule does not hold. -/
  | broken (label : String)
  | repeated (table : String) (columns : List String) (isPrimary : Bool)
  /-- Another row has the same key in an index of computed cells. -/
  | repeatedIn (index : String)
  /-- A cell of a strict table is of another kind than its column. -/
  | misfit (kind type table column : String)
  /-- The number of a row is no whole number. -/
  | unnumbered
  /-- There is no row that the new one refers to. -/
  | dangling
  /-- The columns that a reference asks for are no key. -/
  | mismatch (table target : String)
  /-- What the file holds cannot be read. -/
  | illegible
deriving DecidableEq, Repr

namespace TableFault

def message : TableFault → String
  | .noColumn table column => "table " ++ table ++ " has no column named " ++ column
  | .noTable name => "no such table: main." ++ name
  | .derived column => "cannot INSERT into generated column \"" ++ column ++ "\""
  | .noFunction name => "unknown function: " ++ name ++ "()"
  | .broken label => "CHECK constraint failed: " ++ label
  | .repeatedIn index => "UNIQUE constraint failed: index '" ++ index ++ "'"
  | .required table column => "NOT NULL constraint failed: " ++ table ++ "." ++ column
  | .repeated table columns _ =>
      "UNIQUE constraint failed: "
        ++ ", ".intercalate (columns.map (fun column => table ++ "." ++ column))
  | .misfit kind type table column =>
      "cannot store " ++ (if kind = "Integer" then "INT" else kind.toUpper) ++ " value in "
        ++ type.toUpper ++ " column " ++ table ++ "." ++ column
  | .unnumbered => "datatype mismatch"
  | .dangling => "FOREIGN KEY constraint failed"
  | .mismatch table target =>
      "foreign key mismatch - \"" ++ table ++ "\" referencing \"" ++ target ++ "\""
  | .illegible => "database disk image is malformed"

def number : TableFault → Nat
  | .noColumn _ _ | .noTable _ | .mismatch _ _ | .derived _ | .noFunction _ => 1
  | .broken _ => 275
  | .repeatedIn _ => 2067
  | .required _ _ => 1299
  | .repeated _ _ isPrimary => if isPrimary then 1555 else 2067
  | .misfit _ _ _ _ => 3091
  | .unnumbered => 20
  | .dangling => 787
  | .illegible => 11

end TableFault

/-- Rows of cells. -/
structure Table where
  definition : Definition
  /-- The rows up to the first one that cannot be read. -/
  rows : List (List Cell)
  /-- Whether these are all rows. -/
  isWhole : Bool
deriving DecidableEq, Repr, Inhabited

namespace Table

/-- A table without rows. -/
def ofDefinition (definition : Definition) : Table :=
  ⟨definition, [], true⟩

def cell (row : List Cell) (place : Nat) : Cell :=
  row.getD place .null

/-- The cells of a column, given by its name in small letters. -/
def at? (table : Table) (key : String) (row : List Cell) : Cell :=
  ((table.definition.place? key).map (cell row)).getD .null

section Rules

/-- A row in which what stands for a value replaces one that is required and missing, where a
column asks for that. -/
def completed (definition : Definition) (row : List Cell) : List Cell :=
  List.zipWith (fun column cell =>
    if cell = .null ∧ column.required? = some .replace then column.affinity.keep column.fallback
    else cell) definition.columns row

/-- The first column whose required value is missing in a row.  Columns whose cells follow from
others come last. -/
def missing? (definition : Definition) (row : List Cell) : Option Column :=
  let missing := ((definition.columns.zip row).filter (fun (column, cell) =>
    column.required?.isSome && cell == .null)).map Prod.fst
  (missing.find? (fun column => column.derivation?.isNone)).or missing.head?

/-- The types of a strict table that hold cells of one kind only. -/
def kindsByType : List (String × String) :=
  [("int", "Integer"), ("integer", "Integer"), ("real", "Real"), ("text", "Text"),
    ("blob", "Blob")]

/-- The first cell of a row that is not of the type of its column. -/
def misfit? (definition : Definition) (row : List Cell) : Option TableFault :=
  if !definition.isStrict then none
  else
    ((definition.columns.zip row).find? (fun (column, cell) =>
      cell != .null && (kindsByType.lookup column.type.toLower).any (· != cell.kind))).map
        (fun (column, cell) => .misfit cell.kind column.type definition.name column.name)

/-- The first rule that a row breaks. -/
def broken? (definition : Definition) (row : List Cell) : Option Rule :=
  definition.rules.find? (fun rule => !rule.condition.admits row)

/-- Whether a key is about a row. -/
def concerns (key : Key) (row : List Cell) : Bool :=
  key.condition?.all (Expression.holds row)

/-- Whether two rows agree in a key that is about both. -/
def sameKey (key : Key) (a b : List Cell) : Bool :=
  key.parts.all (fun part => (cell a part.place).agrees part.collation (cell b part.place))
    && concerns key a && concerns key b

/-- The keys of a table in the order in which they are looked at: first the number of a row,
then the others, the latest one first; those that remove what is in the way come last. -/
def keys (definition : Definition) : List Key :=
  let numbered := (definition.number?.map (fun place =>
    Key.plain [⟨place, default, false⟩] true (some definition.numbering))).toList
  let (last, others) := definition.keys.reverse.partition (fun key =>
    key.resolution? == some .replace)
  if definition.numbering = .replace then others ++ last ++ numbered
  else numbered ++ others ++ last

/-- The fault of a row that agrees with another one in a key. -/
def repeated (definition : Definition) (key : Key) : TableFault :=
  let columns := key.parts.map (fun part => definition.column part.place)
  if columns.any Column.isHidden then .repeatedIn key.index
  else .repeated definition.name (columns.map Column.name) key.isPrimary

/-- The rows among which a row can stand, after some keys have been looked at; none if it is
left out. -/
def settle (definition : Definition) (row : List Cell) :
    List Key → List (List Cell) → Except TableFault (Option (List (List Cell)))
  | [], rows => .ok (some rows)
  | key :: keys, rows =>
      if rows.any (sameKey key row) then
        match key.resolution? with
        | some .leave => .ok none
        | some .replace =>
            settle definition row keys (rows.filter (fun other => !sameKey key row other))
        | _ => .error (repeated definition key)
      else settle definition row keys rows

/-- Whether the number of a row, if it is given, is a whole number. -/
def isNumbered (definition : Definition) (row : List Cell) : Bool :=
  match definition.number?.map (cell row) with
  | none | some .null | some (.integer _) => true
  | _ => false

end Rules

section Insertion

/-- The number of a new row: one more than the last. -/
def nextNumber (rows : List (List Cell)) (place : Nat) : Int :=
  match (rows.getLast?).map (fun row => cell row place) with
  | some (.integer last) => last + 1
  | _ => 1

/-- A row with its number, if its table numbers its rows. -/
def numbered (table : Table) (row : List Cell) : List Cell :=
  match table.definition.number? with
  | none => row
  | some place =>
      if cell row place = .null then row.set place (.integer (nextNumber table.rows place))
      else row

/-- Rows with one more, in the order of their numbers. -/
def enter (definition : Definition) (row : List Cell) (rows : List (List Cell)) :
    List (List Cell) :=
  match definition.number? with
  | none => rows ++ [row]
  | some place =>
      let isBefore := fun other => (cell other place).order default (cell row place) == .lt
      rows.takeWhile isBefore ++ row :: rows.dropWhile isBefore

/-- Adds a row that all columns accept, unless a key refuses it or leaves it out. -/
def add (table : Table) (row : List Cell) : Except TableFault (Option Table) :=
  match settle table.definition row (keys table.definition) table.rows with
  | .error fault => .error fault
  | .ok none => .ok none
  | .ok (some rows) => .ok (some { table with rows := enter table.definition row rows })

def rowFor (table : Table) (given : List (String × Cell)) : List Cell :=
  let definition := table.definition
  definition.derive (table.numbered (completed definition (definition.row given)))

/-- Adds a row, unless a rule leaves it out. -/
def insert (table : Table) (given : List (String × Cell)) : Except TableFault (Option Table) :=
  let row := table.rowFor given
  if !isNumbered table.definition (table.definition.row given) then .error .unnumbered
  else
    match missing? table.definition row with
    | some column =>
        if column.required? = some .leave then .ok none
        else .error (.required table.definition.name column.name)
    | none =>
        match misfit? table.definition row with
        | some fault => .error fault
        | none =>
            match broken? table.definition row with
            | some rule => .error (.broken rule.label)
            | none => table.add row

/-- The expressions that a new row is put into. -/
def expressions (definition : Definition) : List Expression :=
  definition.columns.filterMap (fun column => column.derivation?.map Derivation.expression)
    ++ definition.rules.map Rule.condition ++ definition.keys.filterMap Key.condition?

/-- Whether a new row can be given values for some columns. -/
def admits (table : Table) (name : String) (keys : List String) : Except TableFault Unit := do
  let definition := table.definition
  keys.forM (fun key =>
    match definition.place? key with
    | none => throw (.noColumn name key)
    | some place =>
        if (definition.column place).derivation?.isSome then
          throw (.derived (definition.column place).name)
        else return ())
  match (expressions definition).findSome? Expression.unknown? with
  | some function => throw (.noFunction function)
  | none => return ()

end Insertion

end Table
end Likeness
