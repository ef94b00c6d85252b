import Likeness.Store.Definition

/-!
# Outlines of tables

A statement that makes a table is read from left to right, and each of its parts adds to the
outline of the table: a column, a key, a reference or a rule.  A part that does not fit what is
there already is refused with the reason.

`Outline.complete` makes a definition of an outline at the end, when the names in expressions can
be looked up.
-/

namespace Likeness

/-- A definition on the way. -/
structure Outline where
  definition : Definition
  /-- The columns of the primary key, if there is one. -/
  primary? : Option (List Nat)
  /-- Whether the numbers of rows are counted on. -/
  isCounted : Bool
  /-- The name for rules to come. -/
  label? : Option String

/-- A part of a key as it is written. -/
structure KeyItem where
  term : Expression
  /-- Whether the order is turned around. -/
  isTurned : Bool
  /-- Where nothing stands in the order, if that is said. -/
  nullPlace? : Option String
deriving DecidableEq, Repr

/-- An expression without the collations that it asks for. -/
def Expression.bare : Expression → Expression
  | .collated _ operand => operand.bare
  | term => term

namespace KeyItem

/-- The term of a part of a key.  A text stands for a column. -/
def named (item : KeyItem) : Expression :=
  match item.term.bare with
  | .constant (.text name) => .name ("[" ++ name ++ "]")
  | term => term

/-- The collation that a part of a key asks for. -/
def collation? (item : KeyItem) : Option Collation :=
  match item.term with
  | .collated collation _ => some collation
  | _ => none

/-- The place of the column that a part of a key names. -/
def place? (definition : Definition) (item : KeyItem) : Option Nat :=
  match item.named with
  | .name raw => definition.place? (Token.unquoted raw).toLower
  | _ => none

end KeyItem

namespace Outline

/-- The outline of a table of which only the name is known. -/
def start (name : String) : Outline :=
  ⟨⟨name, [], [], [], [], none, .abort, false, false⟩, none, false, none⟩

def mapDefinition (outline : Outline) (change : Definition → Definition) : Outline :=
  { outline with definition := change outline.definition }

section Keys

/-- Refuses parts of a key that say where nothing stands. -/
def admitItems (items : List KeyItem) : Except String Unit :=
  match items.findSome? KeyItem.nullPlace? with
  | some place => .error ("unsupported use of NULLS " ++ place.toUpper)
  | none => .ok ()

/-- A column of a key, by the name that stands for it. -/
def keyPart (definition : Definition) (item : KeyItem) : Except String KeyPart := do
  match ← item.named.lookUp? (definition.scope .key) with
  | .place place _ collation =>
      return ⟨place, item.collation?.getD collation, item.isTurned⟩
  | _ => throw "expressions prohibited in PRIMARY KEY and UNIQUE constraints"

/-- Whether two keys have the same columns with the same collations. -/
def sameParts (a b : Key) : Bool :=
  let parts := fun key : Key => key.parts.map (fun part => (part.place, part.collation))
  parts a == parts b

/-- Enters a key.  One with the same parts is kept, and may not say something else about rows
that break the rule. -/
def enterKey (definition : Definition) (key : Key) : Except String Definition := do
  match definition.keys.find? (sameParts key) with
  | none => return { definition with keys := definition.keys ++ [key] }
  | some other =>
      if other.resolution?.isSome ∧ key.resolution?.isSome ∧ other.resolution? ≠ key.resolution? then
        throw "conflicting ON CONFLICT clauses specified"
      let merged : Key :=
        .plain other.parts (other.isPrimary || key.isPrimary)
          (other.resolution?.or key.resolution?)
      return { definition with keys := definition.keys.map (fun other =>
        if sameParts key other then merged else other) }

/-- Enters a rule that no two rows agree in some columns. -/
def demandUnique (outline : Outline) (items : List KeyItem) (resolution? : Option Resolution) :
    Except String Outline := do
  admitItems items
  let parts ← items.mapM (keyPart outline.definition)
  return { outline with
    definition := ← enterKey outline.definition (.plain parts false resolution?) }

/-- Enters the primary key.  A single column of whole numbers numbers the rows; `isDown` says that
it does not. -/
def demandPrimary (outline : Outline) (items : List KeyItem) (isDown : Bool)
    (resolution? : Option Resolution) (isCounted : Bool) : Except String Outline := do
  let definition := outline.definition
  if outline.primary?.isSome then
    throw ("table \"" ++ definition.name ++ "\" has more than one primary key")
  let places := items.filterMap (KeyItem.place? definition)
  if places.any (fun place => (definition.column place).derivation?.isSome) then
    throw "generated columns cannot be part of the PRIMARY KEY"
  let outline := { outline with primary? := some places }
  match places with
  | [place] =>
      if items.length = 1 ∧ !isDown ∧ (definition.column place).type.toLower = "integer" then
        admitItems items
        return { outline with
          isCounted
          definition := { definition with
            number? := some place, numbering := resolution?.getD .abort } }
  | _ => pure ()
  if isCounted then throw "AUTOINCREMENT is only allowed on an INTEGER PRIMARY KEY"
  admitItems items
  let parts ← items.mapM (keyPart definition)
  return { outline with definition := ← enterKey definition (.plain parts true resolution?) }

end Keys

section References

/-- Why a reference of some columns does not fit; without any it is one of the last column. -/
def referenceFault? (outline : Outline) (names : List String) (target : Reference)
    (written : String) : Option String :=
  let count := target.targets.length
  if count = 0 then none
  else if names.isEmpty then
    if count = 1 then none
    else
      some ("foreign key on " ++ ((outline.definition.columns.getLast?).getD default).name
        ++ " should reference only one column of table " ++ written)
  else if count = names.length then none
  else
    some ("number of columns in foreign key does not match the number of columns in the "
      ++ "referenced table")

/-- Enters a reference of some columns, or of the last one, to a table as it is written. -/
def demandReference (outline : Outline) (names : List String) (target : Reference)
    (written : String) : Except String Outline := do
  let definition := outline.definition
  match outline.referenceFault? names target written with
  | some fault => throw fault
  | none => pure ()
  let places ← names.mapM (fun name =>
    match definition.place? name.toLower with
    | none => throw ("unknown column \"" ++ name ++ "\" in foreign key definition")
    | some place => pure place)
  let places := if names.isEmpty then [definition.columns.length - 1] else places
  return outline.mapDefinition (fun definition =>
    { definition with references := definition.references ++ [{ target with places }] })

/-- Makes the last reference one that may be broken for a while, or one that may not. -/
def deferLast (outline : Outline) (isPatient : Bool) : Outline :=
  outline.mapDefinition (fun definition =>
    { definition with
      references := definition.references.modify (definition.references.length - 1)
        (fun reference => { reference with isPatient }) })

end References

section Columns

/-- A text without a word at its end, and without blanks in front of that. -/
def withoutWord (word text : String) : String :=
  let isSpace := fun c : Char => c == ' ' || (9 ≤ c.toNat && c.toNat ≤ 13)
  if text.toLower.endsWith word then
    String.ofList ((text.toList.reverse.drop word.length).dropWhile isSpace).reverse
  else text

/-- The type of a column as it is written, without the words behind it that say that the cells
follow from others, and without quotes around it. -/
def typeOf (written : String) : String :=
  let text :=
    if 16 ≤ written.utf8ByteSize ∧ written.toLower.endsWith "always" then
      withoutWord "generated" (withoutWord "always" written)
    else written
  let isQuote := fun c : Char => c == '\x27' || c == '"' || c == '\x60' || c == '['
  let inner := (text.toList.drop 1).dropLast
  if 3 ≤ text.utf8ByteSize ∧ (text.toList.head?).any isQuote ∧ !inner.any isQuote then
    String.ofList inner
  else text

def addColumn (encoding : Encoding) (outline : Outline) (name written : String) :
    Except String Outline := do
  if (outline.definition.place? name.toLower).isSome then
    throw ("duplicate column name: " ++ name)
  let type := typeOf written
  let column : Column :=
    ⟨name, name.toLower, type, .ofType type.toLower, .plain encoding, none, .null, none⟩
  return { outline.mapDefinition (fun definition =>
    { definition with columns := definition.columns ++ [column] }) with label? := none }

def lastColumn (outline : Outline) : Column :=
  (outline.definition.columns.getLast?).getD default

def changeLast (outline : Outline) (change : Column → Column) : Outline :=
  outline.mapDefinition (fun definition =>
    { definition with
      columns := definition.columns.modify (definition.columns.length - 1) change })

/-- The last column as a part of a key. -/
def lastItem (outline : Outline) : KeyItem :=
  ⟨.constant (.text outline.lastColumn.name), false, none⟩

/-- Sets the collation of the last column, also in keys of this column alone. -/
def collate (outline : Outline) (collation : Collation) : Outline :=
  let place := outline.definition.columns.length - 1
  (outline.changeLast (fun column => { column with collation })).mapDefinition (fun definition =>
    { definition with keys := definition.keys.map (fun key =>
        if key.parts.map KeyPart.place = [place] then
          { key with parts := key.parts.map (fun part => { part with collation }) }
        else key) })

/-- Sets what stands for a value of the last column that is not given.  It cannot depend on
columns. -/
def setFallback (outline : Outline) (fallback : Expression) : Except String Outline := do
  let column := outline.lastColumn
  match fallback.constant? with
  | none => throw ("default value of column [" ++ column.name ++ "] is not constant")
  | some fallback =>
      if column.derivation?.isSome then throw "cannot use DEFAULT on a generated column"
      return outline.changeLast (fun column => { column with fallback := fallback.value [] })

/-- Makes the cells of the last column follow from others. -/
def setDerivation (outline : Outline) (expression : Expression) (keeping? : Option String) :
    Except String Outline := do
  let column := outline.lastColumn
  let fault := "error in generated column \"" ++ column.name ++ "\""
  if column.fallback ≠ .null then throw fault
  let isKept ←
    match keeping?.map String.toLower with
    | none | some "virtual" => pure false
    | some "stored" => pure true
    | _ => throw fault
  if (outline.primary?.getD []).contains (outline.definition.columns.length - 1) then
    throw "generated columns cannot be part of the PRIMARY KEY"
  return outline.changeLast (fun column =>
    { column with derivation? := some ⟨expression, isKept, false⟩ })

end Columns

section Completion

/-- Adds a rule that each row keeps.  It is called as it is written, if no name for it was
given. -/
def addRule (outline : Outline) (condition : Expression) (written : String) : Outline :=
  let label := outline.label?.getD (Token.unquoted written)
  outline.mapDefinition (fun definition =>
    { definition with rules := definition.rules ++ [⟨label, condition⟩] })

/-- A definition in which some columns require a value. -/
def requiring (definition : Definition) (places : List Nat) : Definition :=
  let demand : Column × Nat → Column := fun (column, place) =>
    if places.contains place then
      { column with required? := some (column.required?.getD .abort) }
    else column
  { definition with columns := definition.columns.zipIdx.map demand }

/-- A table in which each cell has to be of the type of its column. -/
def strict (outline : Outline) : Except String Outline := do
  let definition := outline.definition
  let isKnown := fun column : Column =>
    ["any", "blob", "int", "integer", "real", "text"].contains column.type.toLower
  match definition.columns.find? (fun column => !isKnown column) with
  | some column =>
      throw (if column.type.isEmpty then
          "missing datatype for " ++ definition.name ++ "." ++ column.name
        else
          "unknown datatype for " ++ definition.name ++ "." ++ column.name ++ ": \""
            ++ column.type ++ "\"")
  | none =>
      let places := (outline.primary?.getD []).filter (fun place =>
        definition.number? ≠ some place)
      let free := fun column : Column =>
        if column.type.toLower = "any" then { column with affinity := .untouched } else column
      return outline.mapDefinition (fun definition =>
        requiring { definition with
          isStrict := true, columns := definition.columns.map free } places)

/-- A table that is kept by its primary key: each column of that requires a value, and no column
numbers the rows. -/
def keyed (outline : Outline) : Except String Outline := do
  let definition := outline.definition
  if outline.isCounted then throw "AUTOINCREMENT not allowed on WITHOUT ROWID tables"
  match outline.primary? with
  | none => throw ("PRIMARY KEY missing on table " ++ definition.name)
  | some places =>
      let numbered ←
        match definition.number? with
        | none => pure definition
        | some place =>
            let part : KeyPart := ⟨place, (definition.column place).collation, false⟩
            enterKey { definition with number? := none }
              (.plain [part] true (some definition.numbering))
      return { outline with
        definition := requiring { numbered with isKeyed := true } places }

/-- Rules in which all names are looked up. -/
def settleRules (definition : Definition) : Except String Definition := do
  let rules ← definition.rules.mapM (fun rule => do
    return { rule with condition := ← rule.condition.lookUp? (definition.scope .rule) })
  return { definition with rules }

/-- Columns in whose expressions all names are looked up. -/
def settleColumns (definition : Definition) : Except String Definition := do
  let columns ← definition.columns.mapM (fun column =>
    match column.derivation? with
    | none => pure column
    | some derivation => do
        let expression ← derivation.expression.lookUp? (definition.scope .derivation)
        return { column with derivation? := some { derivation with expression } })
  if !columns.isEmpty ∧ columns.all (fun column => column.derivation?.isSome) then
    throw "must have at least one non-generated column"
  return { definition with columns }

/-- The definition of a table whose outline is complete. -/
def complete (outline : Outline) (isStrict isKeyed : Bool) : Except String Definition := do
  let outline ← if isStrict then outline.strict else pure outline
  let outline ← if isKeyed then outline.keyed else pure outline
  settleColumns (← settleRules outline.definition)

end Completion

end Outline
end Likeness
