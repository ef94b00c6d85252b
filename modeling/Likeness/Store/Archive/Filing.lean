import Likeness.Store.Archive.View
import Likeness.Store.Image.Insert

/-!
# Adding to archives

A row is filed in an archive under its number, with a key in each index of its table.  It is
refused for the reasons for which its store refuses it, and also if a page that is come across
is not well kept.

A row that takes the place of others makes the tables that change be filed anew.

* `Filing.insert` adds a row, and `Filing.finish?` makes the archive that has all of them.
* `Archive.addPart` makes the table of a part.
-/

namespace Likeness
namespace Archive

open Image Draft

section Drafts

/-- Edits the image of an archive, if that can be done. -/
def edit? {α : Type} (archive : Archive) (step : Drafting α) : Option (α × Archive) :=
  (step.run ⟨archive.image, archive.rooms, [1]⟩).map (fun (answer, draft) =>
    (answer, { archive with image := draft.image, rooms := draft.rooms }))

/-- The cells of columns, with the affinities of these. -/
def affinities (definition : Definition) (row : List Cell) (places : List Nat) :
    List (Affinity × Cell) :=
  places.map (fun place => ((definition.column place).affinity, Table.cell row place))

/-- The bytes of a row.  The number of a row is not kept twice. -/
def rowBytes (image : Image) (definition : Definition) (row : List Cell) : ByteArray :=
  Packed.bytes image ((affinities definition row (keptPlaces definition)).zipWith
    (fun (affinity, cell) place =>
      (affinity, if definition.number? = some place then .null else cell))
    (keptPlaces definition))

/-- The columns of a key with the cells of a row, and the number behind them. -/
def keyOf (definition : Definition) (parts : List KeyPart) (number : Int) (row : List Cell) :
    List (KeyPart × Cell) :=
  (parts ++ behind definition parts).map (fun part => (part, Table.cell row part.place))
    ++ if definition.isKeyed then [] else [(⟨0, default, false⟩, .integer number)]

def keyBytes (image : Image) (definition : Definition) (parts : List KeyPart) (number : Int)
    (row : List Cell) : ByteArray :=
  Packed.bytes image
    (affinities definition row ((parts ++ behind definition parts).map KeyPart.place)
      ++ if definition.isKeyed then [] else [(.untouched, .integer number)])

end Drafts

section Rows

/-- The number of a row, if its table has a column for that. -/
def ownNumber? (definition : Definition) (row : List Cell) : Option Int :=
  match definition.number?.map (Table.cell row) with
  | some (.integer number) => some number
  | _ => none

/-- Looks for the number of a row that has none yet. -/
def numberRow (table : CatalogTable) (row : List Cell) : Drafting Int := do
  let definition := table.definition
  match ownNumber? definition row with
  | some number => return number
  | none => if definition.isKeyed then return 0 else newNumber table.root

def fileKey (table : CatalogTable) (number : Int) (row : List Cell) (index : CatalogIndex) :
    Drafting Unit := do
  let image ← current
  let definition := table.definition
  if !index.concerns row then return ()
  let bytes :=
    if definition.isKeyed && index.root == table.root then rowBytes image definition row
    else keyBytes image definition index.parts number row
  addKey index.root (keyOf definition index.parts number row) bytes

/-- Files a row: its keys, the one of the latest index first, and then the row itself. -/
def fileRow (table : CatalogTable) (row : List Cell) : Drafting Unit := do
  let definition := table.definition
  let number ← numberRow table row
  table.indexes.reverse.forM (fileKey table number row)
  let bytes := rowBytes (← current) definition row
  if definition.isKeyed then return ()
  else if (ownNumber? definition row).isSome then addRow table.root number bytes
  else
    let _ ← appendRow table.root bytes
    return ()

/-- Looks for the places of the keys of a row. -/
def inspect (table : CatalogTable) (row : List Cell) : Drafting Unit := do
  let image ← current
  table.indexes.reverse.forM (fun index => do
    if !index.concerns row then return ()
    let key := index.parts.map (fun part => (part, Table.cell row part.place))
    let _ ← need (Way.toKey? image index.root key .eq)
    return ())

/-- Looks whether what a row refers to can be looked for. -/
def follow (catalog : Catalog) (row : List Cell) (reference : Reference) : Drafting Unit := do
  let image ← current
  let wanted := reference.places.map (Table.cell row)
  match catalog.table? reference.table with
  | none => return ()
  | some target =>
      if wanted.contains .null then return ()
      let places := (Store.targets? target.definition reference).getD []
      let index? := target.indexes.find? (fun index =>
        index.condition?.isNone && index.parts.map KeyPart.place == places)
      match index? with
      | none => return ()
      | some index =>
          let key := List.zipWith (fun (part : KeyPart) cell =>
            (part, (target.definition.column part.place).affinity.keep cell)) index.parts wanted
          let _ ← need (Way.toKey? image index.root key .eq)
          return ()

end Rows

section Renewal

/-- The pages of a tree below its root. -/
def pagesBelow (image : Image) (isTable : Bool) (root : Nat) : Option (List Nat) := do
  let harvest ← image.entries? isTable root
  let below := harvest.pages.toList.filter (fun number => number != root)
  return below ++ harvest.entries.toList.flatMap (PageEntry.further image)

/-- Takes all entries off a tree. -/
def clear (isTable : Bool) (root : Nat) : Drafting Unit := do
  (← need (pagesBelow (← current) isTable root)).forM release
  let image ← current
  keep (blank image root (← page root) isTable true)

/-- Files rows in the place of all rows of a table. -/
def renew (table : CatalogTable) (rows : List (List Cell)) : Drafting Unit := do
  clear (!table.definition.isKeyed) table.root
  table.ownIndexes.forM (fun index => clear false index.root)
  rows.forM (fileRow table)

/-- Files the rows of tables anew where they differ from those of a store. -/
def renewAll (archive : Archive) (store : Store) : Drafting Unit :=
  archive.catalog.tables.forM (fun table =>
    match store.named? table.definition.name with
    | none => return ()
    | some changed =>
        if changed.rows = (allRows archive.image table).1 then return ()
        else renew table changed.rows)

end Renewal

section Saving

/-- An archive to which rows are added, with its store. -/
structure Filing where
  archive : Archive
  store : Store

/-- Whether rows of a store can take the place of others. -/
def replaces (store : Store) : Bool :=
  store.tables.any (fun table => table.definition.replaces)

/-- Adds a row to a part. -/
def Filing.insert (filing : Filing) (part : Part) (given : List (String × Cell)) :
    Except TableFault Filing := do
  let old := filing.store.table part
  let row := old.rowFor given
  match filing.archive.catalog.table? part.name with
  | none => return { filing with store := ← filing.store.insert part given }
  | some table =>
      let catalog := filing.archive.catalog
      if (filing.archive.edit? (numberRow table row)).isNone then throw .illegible
      let isLegible :=
        (filing.archive.edit? (do
          inspect table row
          table.definition.references.forM (follow catalog row))).isSome
      match filing.store.insert part given with
      | .error fault =>
          match fault with
          | .repeated _ _ _ | .repeatedIn _ | .dangling => throw (if isLegible then fault else .illegible)
          | _ => throw fault
      | .ok store =>
          if !isLegible then throw .illegible
          if replaces store || (store.table part).rows.length = old.rows.length then
            return { filing with store }
          match filing.archive.edit? (fileRow table row) with
          | none => throw .illegible
          | some (_, archive) => return ⟨archive, store⟩

/-- What is added to an archive, before anything is. -/
def Filing.start (archive : Archive) : Filing :=
  ⟨archive, archive.store⟩

/-- The archive that has all rows that were added. -/
def Filing.finish? (filing : Filing) : Option Archive :=
  let changed? :=
    if replaces filing.store then
      filing.archive.edit? (renewAll filing.archive filing.store)
    else some ((), filing.archive)
  changed?.map (fun (_, changed) => { changed with image := Head.stamp changed.image })

end Saving

section Establishing

/-- The statement that makes the table of a part. -/
def statement : Part → String
  | .runs =>
      "CREATE TABLE runs (\n" ++ "    run_id      TEXT PRIMARY KEY,\n"
        ++ "    run_hash    TEXT NOT NULL,\n" ++ "    name        TEXT,\n"
        ++ "    timestamp   INTEGER NOT NULL,\n" ++ "    tree_count  INTEGER NOT NULL,\n"
        ++ "    parameters  TEXT NOT NULL\n)"
  | .files =>
      "CREATE TABLE run_files (\n"
        ++ "    run_id      TEXT NOT NULL REFERENCES runs(run_id),\n"
        ++ "    position    INTEGER NOT NULL,\n" ++ "    file        TEXT NOT NULL,\n"
        ++ "    PRIMARY KEY (run_id, position)\n)"
  | .pairs =>
      "CREATE TABLE similarities (\n"
        ++ "    run_id        TEXT NOT NULL REFERENCES runs(run_id),\n"
        ++ "    file_a        TEXT NOT NULL,\n" ++ "    file_b        TEXT NOT NULL,\n"
        ++ "    similarity    REAL NOT NULL,\n" ++ "    edit_distance INTEGER NOT NULL,\n"
        ++ "    PRIMARY KEY (run_id, file_a, file_b)\n)"

/-- A line of the list of tables. -/
def lineBytes (image : Image) (type name table : String) (root : Nat)
    (statement? : Option String) : ByteArray :=
  Packed.bytes image ([.text type, .text name, .text table, .integer root,
    (statement?.map Cell.text).getD .null].map (fun cell => (.untouched, cell)))

/-- What stands for a line of the list of tables before it can be written: five empty cells. -/
def openLine : ByteArray :=
  ⟨#[6, 0, 0, 0, 0, 0]⟩

/-- Makes the table of a part, and the index for its key.  The line for the table is left open at
first. -/
def makePart (part : Part) : Drafting Unit := do
  let name := part.name
  let largest := quadAt (← page 1) 52
  if (← current).pages.size < largest then failure
  modify (fun draft => { draft with image := Head.settleFormat draft.image })
  let root ← newRoot true
  let number ← appendRow 1 openLine
  let index ← newRoot false
  let image ← current
  let _ ← appendRow 1
    (lineBytes image "index" ("sqlite_autoindex_" ++ name ++ "_1") name index none)
  addRow 1 number (lineBytes image "table" name name root (statement part))
  if largest ≠ 0 then writeQuad 1 52 (max root index)

def addPart (archive : Archive) (part : Part) : Except StoreRefusal Archive := do
  match archive.edit? (makePart part) with
  | none => throw .malformed
  | some (_, changed) =>
      let read ← ofImage (Head.stamp (Head.countTables changed.image))
      return { read with rooms := changed.rooms }

/-- Whether there is a table or a view for a part. -/
def hasPart (archive : Archive) (part : Part) : Bool :=
  (archive.catalog.table? part.name).isSome || archive.catalog.hasView part.name

end Establishing

end Archive
end Likeness
