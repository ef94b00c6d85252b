import Likeness.Store.Table

/-!
# Questions to a store

A store has a table of runs, a table of their identifiers and a table of their results, and
there may be further tables that these refer to.  `Store.insert` adds a row to one of the
three.

A question mentions columns, and is refused with its text if one of them is missing.
-/

namespace Likeness

/-- One of the three tables of a store. -/
inductive Part
  | runs
  | files
  | pairs
deriving DecidableEq, Repr

namespace Part

def all : List Part := [.runs, .files, .pairs]

/-- What a part is like in a store that is new. -/
def definition : Part → Definition
  | .runs => .runs
  | .files => .files
  | .pairs => .pairs

def name (part : Part) : String :=
  part.definition.name

end Part

/-- The three tables, and others. -/
structure Store where
  runs : Table
  files : Table
  pairs : Table
  others : List Table
deriving DecidableEq, Repr

namespace Store

def empty : Store :=
  ⟨.ofDefinition .runs, .ofDefinition .files, .ofDefinition .pairs, []⟩

instance : Inhabited Store := ⟨empty⟩

def table (store : Store) : Part → Table
  | .runs => store.runs
  | .files => store.files
  | .pairs => store.pairs

/-- A store with another table for a part. -/
def setTable (store : Store) (part : Part) (table : Table) : Store :=
  match part with
  | .runs => { store with runs := table }
  | .files => { store with files := table }
  | .pairs => { store with pairs := table }

def named? (store : Store) (name : String) : Option Table :=
  (Part.all.map store.table ++ store.others).find? (fun table =>
    table.definition.name.toLower == name.toLower)

section References

/-- The places of the columns that a reference asks for, if they are a key. -/
def targets? (target : Definition) (reference : Reference) : Option (List Nat) :=
  if reference.targets.isEmpty then
    (target.primary?.map (fun key => key.parts.map KeyPart.place)).filter (fun places =>
      places.length == reference.places.length)
  else do
    let places ← reference.targets.mapM target.place?
    let isKey := fun key : Key =>
      key.condition?.isNone && key.parts.length == places.length && key.parts.all (fun part =>
        places.contains part.place && part.collation == (target.column part.place).collation)
    if (target.primary?.toList ++ target.keys).any isKey then some places else none

/-- Why a reference of a table cannot be followed. -/
def referenceFault? (store : Store) (table : Table) (reference : Reference) :
    Option TableFault :=
  match store.named? reference.table with
  | none => some (.noTable reference.table)
  | some target =>
      if (targets? target.definition reference).isNone then
        some (.mismatch table.definition.name reference.table)
      else none

def tables (store : Store) : List Table :=
  Part.all.map store.table ++ store.others

/-- The references to a table, each with the table that it belongs to; the latest one comes
first. -/
def referrers (store : Store) (target : Table) : List (Table × Reference) :=
  (store.tables.flatMap (fun table =>
    (table.definition.references.filter (fun reference =>
      reference.table.toLower == target.definition.name.toLower)).map (fun reference =>
        (table, reference)))).reverse

/-- Whether a row agrees with what another one refers to. -/
def isMeant (target : Definition) (reference : Reference) (row other : List Cell) : Bool :=
  let wanted := reference.places.map (Table.cell row)
  (wanted.zip ((targets? target reference).getD [])).all (fun (cell, place) =>
    let column := target.column place
    (column.affinity.keep cell).agrees column.collation (Table.cell other place))

/-- Whether there is a row that a row refers to.  It need not be there if a value is not
given. -/
def isAnswered (store : Store) (row : List Cell) (reference : Reference) : Bool :=
  (reference.places.map (Table.cell row)).contains .null
    || match store.named? reference.table with
      | none => false
      | some target => target.rows.any (isMeant target.definition reference row)

end References

section Removal

def setRows (store : Store) (name : String) (rows : List (List Cell)) : Store :=
  let change := fun table : Table =>
    if table.definition.name == name then { table with rows } else table
  ⟨change store.runs, change store.files, change store.pairs, store.others.map change⟩

/-- A row that no longer refers to anything. -/
def unset (definition : Definition) (reference : Reference) (row : List Cell) : List Cell :=
  reference.places.foldl (fun row place =>
    row.set place
      (if reference.consequence = .setDefault then
        (definition.column place).affinity.keep (definition.column place).fallback
      else .null)) row

/-- What becomes of the rows that referred to some rows of a table that are gone.  Each of at
most `fuel` tables in a chain of references may lose rows. -/
def release : (fuel : Nat) → Table → List (List Cell) → Store → Except TableFault Store
  | 0, _, _, store => .ok store
  | fuel + 1, target, gone, store =>
      (store.referrers target).foldlM (fun store (table, reference) =>
        match store.named? table.definition.name with
        | none => .ok store
        | some table =>
            let definition := table.definition
            let isHit := fun row => gone.any (isMeant target.definition reference row)
            if !table.rows.any isHit then .ok store
            else
              match reference.consequence with
              | .restrict => .error .dangling
              | .cascade =>
                  release fuel table (table.rows.filter isHit)
                    (store.setRows definition.name (table.rows.filter (fun row => !isHit row)))
              | .noAction =>
                  if (table.rows.filter isHit).all (fun row => store.isAnswered row reference) then
                    .ok store
                  else .error .dangling
              | _ =>
                  let changed := table.rows.map (fun row =>
                    if isHit row then unset definition reference row else row)
                  match changed.findSome? (Table.missing? definition) with
                  | some column => .error (.required definition.name column.name)
                  | none => .ok (store.setRows definition.name changed)) store

end Removal

section Insertion

/-- Whether rows of a part can be given values for some columns. -/
def admits (store : Store) (part : Part) (keys : List String) : Except TableFault Unit := do
  let table := store.table part
  table.admits part.name keys
  match table.definition.references.reverse.findSome? (store.referenceFault? table) with
  | some fault => throw fault
  | none => pure ()
  let followed := (store.referrers table).filter (fun (_, reference) =>
    reference.isPatient || table.definition.replaces)
  match followed.findSome? (fun (other, reference) => store.referenceFault? other reference) with
  | some fault => throw fault
  | none => return ()

/-- Adds a row to a part.  What it refers to has to be there, and rows that it replaces may not
be referred to. -/
def insert (store : Store) (part : Part) (given : List (String × Cell)) :
    Except TableFault Store := do
  let table := store.table part
  let row := table.rowFor given
  match ← table.insert given with
  | none => return store
  | some next =>
      let store := store.setTable part next
      if !table.definition.references.all (store.isAnswered row) then throw .dangling
      if !table.definition.replaces then return store
      let gone := table.rows.filter (fun other => !next.rows.contains other)
      release store.tables.length table gone store

end Insertion

end Store

/-- Why a question has no answer. -/
inductive QuestionFault
  /-- A column that the question mentions is missing. -/
  | noColumn (question written : String)
  /-- A cell of the answer is of another kind. -/
  | wrongKind (place : Nat) (column kind : String)
  /-- A text of the answer is not UTF-8. -/
  | garbled (place : Nat) (flaw : Utf8.Flaw)
  | runNotFound (runId : String)
  /-- What the file holds cannot be read. -/
  | illegible
deriving DecidableEq, Repr

/-- A column as a question mentions it. -/
structure Mention where
  written : String
  part : Part
  key : String
deriving DecidableEq, Repr

/-- A question, and the columns that it mentions. -/
structure Question where
  text : String
  mentions : List Mention
deriving DecidableEq, Repr

/-- Refuses a question if a column is missing. -/
def Question.check (question : Question) (store : Store) : Except QuestionFault Unit :=
  match question.mentions.find? (fun mention =>
      ((store.table mention.part).definition.place? mention.key).isNone) with
  | some mention => .error (.noColumn question.text mention.written)
  | none => .ok ()

namespace Table

section Searching

/-- The column of a given name in small letters. -/
def columnOf (table : Table) (key : String) : Column :=
  ((table.definition.place? key).map table.definition.column).getD default

/-- The rows of a run, by its name. -/
def rowsOf (table : Table) (runId : String) : List (List Cell) :=
  let column := table.columnOf "run_id"
  let wanted : Cell :=
    if column.affinity.isNumeric then Affinity.numeric.keep (.text runId) else .text runId
  table.rows.filter (fun row => (table.at? "run_id" row).agrees column.collation wanted)

/-- The order of two rows by some columns, each of which may be turned around. -/
def orderBy (table : Table) (columns : List (String × Bool)) (a b : List Cell) : Ordering :=
  columns.foldr (fun (key, isTurned) rest =>
    let collation := (table.columnOf key).collation
    let order := (table.at? key a).order collation (table.at? key b)
    (if isTurned then order.swap else order).then rest) .eq

/-- Rows in the order of some columns. -/
def sortedBy (table : Table) (columns : List (String × Bool)) (rows : List (List Cell)) :
    List (List Cell) :=
  rows.mergeSort (fun a b => (table.orderBy columns a b).isLE)

end Searching

end Table

end Likeness
