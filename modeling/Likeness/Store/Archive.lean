import Likeness.Store.Catalog
import Likeness.Store.Head
import Likeness.Store.Image.Seek

/-!
# Archives

An archive is the image of a file together with the catalog of what is in it.

* `Archive.ofImage` reads the catalog.
* `Archive.scan` reads the rows of a table in the order in which they are kept.
* `Archive.find` reads those rows that agree with a cell, by a key if there is one for it.

Rows are read up to the first one that is beyond reading.
-/

namespace Likeness

/-- An image, and what is in it. -/
structure Archive where
  image : Image
  /-- The number of free bytes of pages that have been edited. -/
  rooms : List (Nat × Nat)
  catalog : Catalog

namespace Archive

open Image

/-- The values of a function up to the first item that has none, and whether all have. -/
def takeAll {α β : Type} (read? : α → Option β) : List α → List β × Bool
  | [] => ([], true)
  | item :: items =>
      match read? item with
      | none => ([], false)
      | some value =>
          let (values, isWhole) := takeAll read? items
          (value :: values, isWhole)

section Catalog

/-- The part of a text in front of its first null. -/
def upToNull (text : String) : String :=
  String.ofList (text.toList.takeWhile (fun c => c != '\x00'))

/-- A cell as a text, unless there is nothing in it. -/
def written? : Cell → Option String
  | .null => none
  | .blob bytes | .garbled bytes => some (upToNull (Utf8.shown ⟨bytes.toArray⟩))
  | cell =>
      match Affinity.text.keep cell with
      | .text value => some (upToNull value)
      | _ => none

/-- A line of the list of tables. -/
def lineOf (cells : List Cell) : CatalogLine :=
  let at? := fun k => written? (cells.getD k .null)
  ⟨at? 0, at? 1, at? 2, at? 3, at? 4⟩

/-- Reads what is in an image.  What a line says wrong comes before what cannot be read behind
it. -/
def ofImage (image : Image) : Except StoreRefusal Archive := do
  let (harvest, isWhole) := image.walk true 1
  let (rows, isLegible) :=
    takeAll (fun entry => Packed.cells? image entry [0, 1, 2, 3, 4]) harvest.entries.toList
  let catalog ← Catalog.ofLines image.encoding image.pages.size (rows.map lineOf)
  if isWhole && isLegible then return ⟨image, [], catalog⟩ else throw .malformed

end Catalog

section Rows

/-- The places of the columns of a table in the order in which they are kept: those of the
primary key first, if the table is kept by it.  Cells that are computed are not kept. -/
def keptPlaces (definition : Definition) : List Nat :=
  let all := (List.range definition.columns.length).filter (fun place =>
    !(definition.column place).isComputed)
  match definition.primary? with
  | some key =>
      if definition.isKeyed then
        let first := (key.parts.map KeyPart.place).eraseDups
        first ++ all.filter (fun place => !first.contains place)
      else all
  | none => all

/-- The columns behind those of a key, by which rows are told apart: those of the primary key, if
the table is kept by it. -/
def behind (definition : Definition) (parts : List KeyPart) : List KeyPart :=
  if definition.isKeyed then
    ((definition.primary?.map Key.parts).getD []).filter (fun part =>
      !(parts.map KeyPart.place).contains part.place)
  else []

/-- A cell of a column as it is read. -/
def loaded (column : Column) : Option Cell → Cell
  | none => column.affinity.keep column.fallback
  | some (.integer value) =>
      if column.affinity = .real then .real (Cell.realOf value) else .integer value
  | some cell => cell

/-- The row that is kept as some cells of columns at some places, under a number. -/
def rowOf (definition : Definition) (number : Int) (places : List Nat) (cells : List Cell) :
    List Cell :=
  definition.columns.zipIdx.map (fun (column, place) =>
    if definition.number? = some place then .integer number
    else loaded column ((places.idxOf? place).bind (fun k => cells[k]?)))

/-- The columns that are read for some columns that are needed: all that are kept, if one of those
is computed. -/
def readPlaces (definition : Definition) (needed : List Nat) : List Nat :=
  if needed.any (fun place => (definition.column place).isComputed) then keptPlaces definition
  else needed

/-- The places among kept cells of the columns that are needed. -/
def neededOf (places needed : List Nat) : List Nat :=
  needed.filterMap (fun place => places.idxOf? place)

/-- The columns of some names. -/
def placesOf (definition : Definition) (keys : List String) : List Nat :=
  keys.filterMap definition.place?

/-- The row in an entry of a table, of which some columns are needed. -/
def rowIn? (image : Image) (definition : Definition) (needed : List Nat) (entry : PageEntry) :
    Option (List Cell) := do
  let places := keptPlaces definition
  let cells ← Packed.cells? image entry (neededOf places (readPlaces definition needed))
  return (if definition.hasComputed then definition.derive else id)
    (rowOf definition entry.number places cells)

/-- The rows of a table in order, of which some columns are needed, and whether these are all
rows. -/
def scan (image : Image) (table : CatalogTable) (needed : List Nat) : List (List Cell) × Bool :=
  let definition := table.definition
  let (harvest, isWhole) := image.walk (!definition.isKeyed) table.root
  let (rows, isLegible) := takeAll (rowIn? image definition needed) harvest.entries.toList
  (rows, isWhole && isLegible)

end Rows

section Finding

/-- The keys from a way on that start with some cells, and whether these are all of them; there
are at most `fuel`. -/
def keysFrom (image : Image) (key : List (KeyPart × Cell)) : (fuel : Nat) → Option Way →
    List PageEntry × Bool
  | 0, _ | _, none => ([], true)
  | fuel + 1, some way =>
      match way.key? image with
      | none => ([], false)
      | some entry =>
          match if entry.size = 0 then none else entry.bytes? image with
          | none => ([], false)
          | some bytes =>
              if Packed.compare? image bytes key .lt ≠ some .lt then ([], true)
              else
                match way.next? image with
                | none => ([entry], false)
                | some next? =>
                    let (entries, isWhole) := keysFrom image key fuel next?
                    (entry :: entries, isWhole)

/-- The keys of a tree that start with some cells. -/
def keysOf (image : Image) (root : Nat) (key : List (KeyPart × Cell)) : List PageEntry × Bool :=
  match Way.toKey? image root key .gt with
  | none => ([], false)
  | some (way, _) =>
      match way.settle? image with
      | none => ([], false)
      | some way? => keysFrom image key (image.pages.size * image.pageSize) way?

/-- The row of a table under a number, of which some columns are needed. -/
def rowAt? (image : Image) (table : CatalogTable) (needed : List Nat) (number : Int) :
    Option (List Cell) := do
  let (way, isThere) ← Way.toRow? image table.root number
  if !isThere then none
  let page ← way.page? image
  rowIn? image table.definition needed (page.entry image way.place)

/-- The row for a key with some columns.  What the key does not have is read off the table. -/
def rowFor? (image : Image) (table : CatalogTable) (parts : List KeyPart) (needed : List Nat)
    (entry : PageEntry) : Option (List Cell) := do
  let definition := table.definition
  let places := (parts ++ behind definition parts).map KeyPart.place
  let own := needed.filter (fun place => places.contains place)
  let cells ← Packed.cells? image entry (neededOf places own)
  let short := rowOf definition 0 places cells
  let missing := needed.filter (fun place => !places.contains place)
  if missing.isEmpty then return short
  let row ←
    if definition.isKeyed then do
      let parts := (definition.primary?.map Key.parts).getD []
      let key ← Packed.cells? image entry (neededOf places (parts.map KeyPart.place))
      let whole := rowOf definition 0 places key
      let (way, isThere) ← Way.toKey? image table.root
        (parts.map (fun part => (part, whole.getD part.place .null))) .eq
      if !isThere then none
      rowIn? image definition missing (← way.key? image)
    else do
      rowAt? image table missing (← Packed.lastNumber? image entry)
  return short.zipIdx.map (fun (cell, place) =>
    if places.contains place then cell else row.getD place .null)

/-- The trees with keys of all rows of a table that start with a column, in its collation: their
roots and their columns. -/
def keyTrees (table : CatalogTable) (place : Nat) : List (Nat × List KeyPart) :=
  let definition := table.definition
  let collation := (definition.column place).collation
  table.indexes.filterMap (fun index => do
    let first ← index.parts.head?
    if first.place = place ∧ first.collation = collation ∧ index.condition?.isNone then
      some (index.root, index.parts)
    else none)

/-- The tree with keys in which rows are looked for: the one with the fewest columns if no other
column is needed, and otherwise the one with the most columns. -/
def bestTree? (trees : List (Nat × List KeyPart)) (needed : List Nat) :
    Option (Nat × List KeyPart) :=
  trees.foldl (fun best? tree =>
    match best? with
    | none => some tree
    | some best =>
        let isBetter :=
          if needed.isEmpty then tree.2.length ≤ best.2.length
          else best.2.length ≤ tree.2.length
        if isBetter then some tree else best?) none

/-- The rows of a table that agree with a cell in a column, of which some columns are needed, and
whether these are all such rows. -/
def find (image : Image) (table : CatalogTable) (needed : List Nat) (place : Nat)
    (wanted : Cell) : List (List Cell) × Bool :=
  let definition := table.definition
  if wanted = .null then ([], true)
  else if definition.number? = some place then
    match wanted with
    | .integer number =>
        match Way.toRow? image table.root number with
        | none => ([], false)
        | some (_, false) => ([], true)
        | some _ => takeAll (rowAt? image table needed) [number]
    | _ => ([], true)
  else
    match bestTree? (keyTrees table place) needed with
    | none => scan image table (place :: needed)
    | some (root, parts) =>
        let key := (parts.take 1).map (fun part => (part, wanted))
        let (entries, isWhole) := keysOf image root key
        let read? :=
          if definition.isKeyed && root == table.root then
            rowIn? image definition (place :: needed)
          else rowFor? image table parts (place :: needed)
        let (rows, isLegible) := takeAll read? entries
        (rows, isWhole && isLegible)

end Finding

end Archive
end Likeness
