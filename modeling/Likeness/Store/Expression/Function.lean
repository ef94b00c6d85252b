import Likeness.Json.Skip
import Likeness.Store.Cell.Arithmetic
import Likeness.Store.Expression.Pattern

/-!
# Functions of cells

A function has a name and takes a certain number of cells; `Function.all` lists them.
`Function.result` is what some of them make of cells.  The time by the clock is some text here, and
those that go by chance or by more than their cells have no result.
-/

namespace Likeness

/-- A function of cells: its name in small letters, and how many cells it takes. -/
structure Function where
  name : String
  least : Nat
  /-- Without it there may be any number of cells. -/
  most? : Option Nat
deriving DecidableEq, Repr

namespace Function

section Names

/-- Functions that take so many cells. -/
def taking (least : Nat) (most? : Option Nat) (names : List String) : List Function :=
  names.map (fun name => ⟨name, least, most?⟩)

def all : List Function :=
  taking 0 (some 0) ["changes", "current_date", "current_time", "current_timestamp",
      "last_insert_rowid", "random", "sqlite_source_id", "sqlite_version", "total_changes"]
    ++ taking 1 (some 1) ["abs", "hex", "json", "json_error_position", "json_quote", "jsonb",
      "length", "likely", "lower", "octet_length", "quote", "randomblob", "sign", "soundex",
      "sqlite_compileoption_get", "sqlite_compileoption_used", "subtype", "typeof", "unicode",
      "unlikely", "upper", "zeroblob"]
    ++ taking 1 (some 2) ["json_array_length", "json_type", "json_valid", "load_extension",
      "ltrim", "round", "rtrim", "trim", "unhex"]
    ++ taking 2 (some 2) ["glob", "ifnull", "instr", "json_patch", "jsonb_patch", "likelihood",
      "match", "nullif", "sqlite_log", "timediff"]
    ++ taking 2 (some 3) ["like", "substr", "substring"]
    ++ taking 3 (some 3) ["iif", "replace"]
    ++ taking 2 none ["coalesce", "max", "min"]
    ++ taking 1 none ["concat"]
    ++ taking 2 none ["concat_ws"]
    ++ taking 0 none ["char", "date", "datetime", "format", "json_array", "json_extract",
      "json_insert", "json_object", "json_remove", "json_replace", "json_set", "jsonb_array",
      "jsonb_extract", "jsonb_insert", "jsonb_object", "jsonb_remove", "jsonb_replace",
      "jsonb_set", "julianday", "printf", "strftime", "time", "unixepoch"]

/-- Functions of many rows, which no rule about one row can use. -/
def ofRows : List String :=
  ["avg", "count", "group_concat", "json_group_array", "json_group_object",
    "jsonb_group_array", "jsonb_group_object", "string_agg", "sum", "total"]

/-- Whether a function gives another result each time. -/
def isUnsettled (name : String) : Bool :=
  ["changes", "last_insert_rowid", "random", "randomblob", "total_changes"].contains name

/-- Whether there is a function of a given name. -/
def isKnown (name : String) : Bool :=
  (all.map Function.name ++ ofRows).contains name

/-- Whether a function takes so many cells. -/
def takes (function : Function) (count : Nat) : Bool :=
  function.least ≤ count && function.most?.all (fun most => count ≤ most)

/-- Whether a rule about one row misuses a function of so many cells: it is one of many rows. -/
def isMisused (name : String) (count : Nat) : Bool :=
  ofRows.contains name || ((name = "max" || name = "min") && count = 1)

/-- Whether no function of this name, of which there is one, takes so many cells. -/
def isMiscounted (name : String) (count : Nat) : Bool :=
  all.any (fun function => function.name = name && !function.takes count)

end Names

section Texts

def chars (cell : Cell) : List Char :=
  ((cell.text?).getD "").toList

/-- The number of characters in front of the first null, or of bytes. -/
def length : Cell → Cell
  | .null => .null
  | .blob bytes => .integer bytes.length
  | cell => .integer ((chars cell).takeWhile (fun c => c != '\x00')).length

/-- A cell as a number of a place or a count, of which only four bytes are used. -/
def smallNumber (cell : Cell) : Int :=
  Int.bmod cell.whole (2 ^ 32)

/-- The part of a list from a place on, which is counted from one, or from the end if it is
negative. -/
def onward {α : Type} (items : List α) (start : Int) : List α :=
  let start := if 0 < start then start - 1 else if start = 0 then 0 else start + items.length
  items.drop (max 0 start).toNat

/-- So many items from a place on, or in front of it if the count is negative. -/
def slice {α : Type} (items : List α) (start count : Int) : List α :=
  let start :=
    if 0 < start then start - 1 else if start = 0 then -1 else start + items.length
  let (low, high) := if count < 0 then (start + count, start) else (start, start + count)
  (items.take (max 0 high).toNat).drop (max 0 low).toNat

/-- A part of a list, up to its end if there is no count. -/
def pick {α : Type} (items : List α) (start : Cell) (count? : Option Cell) : List α :=
  match count? with
  | none => onward items (smallNumber start)
  | some count => slice items (smallNumber start) (smallNumber count)

def part (cell : Cell) (start : Cell) (count? : Option Cell) : Cell :=
  if cell = .null ∨ start = .null ∨ count? = some .null then .null
  else
    match cell with
    | .blob [] => .null
    | .blob bytes => .blob (pick bytes start count?)
    | cell => .text (String.ofList (pick (chars cell) start count?))

/-- The place where a list occurs in another one, counted from one; zero if it does not. -/
def placeOf {α : Type} [BEq α] (wanted : List α) : (place : Nat) → List α → Nat
  | place, [] => if wanted.isEmpty then place else 0
  | place, items@(_ :: rest) =>
      if wanted.isPrefixOf items then place else placeOf wanted (place + 1) rest

/-- A list in which another one is replaced wherever it occurs; there are at most `fuel`
items. -/
def replaced {α : Type} [BEq α] (wanted other : List α) : (fuel : Nat) → List α → List α
  | 0, items => items
  | _, [] => []
  | fuel + 1, items@(first :: rest) =>
      if wanted.isPrefixOf items then other ++ replaced wanted other fuel (items.drop wanted.length)
      else first :: replaced wanted other fuel rest

/-- A text without some characters at its start or at its end. -/
def trimmed (atStart atEnd : Bool) (cell : Cell) (set? : Option Cell) : Cell :=
  if cell = .null ∨ set? = some .null then .null
  else
    let set := (set?.map chars).getD [' ']
    let cut := fun s : List Char => s.dropWhile (fun c => set.contains c)
    let s := if atStart then cut (chars cell) else chars cell
    .text (String.ofList (if atEnd then (cut s.reverse).reverse else s))

/-- A text with every character changed. -/
def mapped (change : Char → Char) (cell : Cell) : Cell :=
  if cell = .null then .null else .text (String.ofList ((chars cell).map change))

def bytes (cell : Cell) : List UInt8 :=
  match cell with
  | .blob bytes | .garbled bytes => bytes
  | cell => ((cell.text?).getD "").toUTF8.toList

/-- Bytes by their digits. -/
def digits (bytes : List UInt8) : String :=
  String.ofList (bytes.flatMap (fun byte =>
    [byte.toNat / 16, byte.toNat % 16].map (fun n => (Nat.digitChar n).toUpper)))

/-- A cell as a statement writes it. -/
def quoted : Cell → String
  | .null => "NULL"
  | .blob bytes => "X'" ++ digits bytes ++ "'"
  | cell =>
      if cell.isText then
        let s := chars cell
        "'" ++ String.ofList (s.flatMap (fun c => if c = '\x27' then [c, c] else [c])) ++ "'"
      else (cell.text?).getD ""

/-- Whether a text is a document of numbers, texts, lists and members. -/
def isDocument (cell : Cell) : Bool :=
  let s := chars cell
  match Json.skipValue (2 * s.length + 2) s with
  | .ok rest => (Json.skipBlank rest).isEmpty
  | .error _ => false

end Texts

section Numbers

def size : Cell → Cell
  | .null => .null
  | .integer value => if Cell.fits value.natAbs then .integer value.natAbs else .null
  | cell => .real (.ofFloat cell.number.approximate.toFloat.abs)

def sign (cell : Cell) : Cell :=
  let number := if cell.isText then (Cell.numberOf? ((cell.text?).getD "")).getD .null else cell
  match number with
  | .null | .blob _ | .text _ | .garbled _ => .null
  | number =>
      match Cell.orderNumbers number (.integer 0) with
      | .lt => .integer (-1)
      | .eq => .integer 0
      | .gt => .integer 1

/-- A number rounded to some places. -/
def rounded (cell : Cell) (places : Int) : Cell :=
  if cell = .null then .null
  else
    let places := (max 0 (min 30 places)).toNat
    let value := cell.number.approximate
    match value.magnitude? with
    | none => .real value
    | some (m, q) =>
        let units := Decimal.roundDiv .up (m * Decimal.powerUp 2 q * 10 ^ places)
          (Decimal.powerDown 2 q)
        let size := Float.ofScientific units true places
        .real (.ofFloat (if value.isNegative ∧ units ≠ 0 then -size else size))

/-- The first or the last of some cells in their order; nothing if there is nothing in one.  Of
those that are as early as any the last one is taken, and of those that are as late the first. -/
def extreme (collation : Collation) (isLast : Bool) : List Cell → Cell
  | [] => .null
  | first :: rest =>
      if (first :: rest).contains .null then .null
      else
        rest.foldl (fun best cell =>
          let order := cell.order collation best
          if (if isLast then order == .gt else order != .gt) then cell else best) first

end Numbers

section Results

/-- Whether a text agrees with a pattern. -/
def agreement (pattern text : Cell) (read : String → Pattern) : Cell :=
  match pattern.text?, text.text? with
  | some pattern, some text => Cell.ofTruth (some ((read pattern).covers text))
  | _, _ => .null

/-- The character of a code point. -/
def charOf (cell : Cell) : Char :=
  let code := cell.whole
  if code < 0 ∨ 0x10ffff < code then '\ufffd' else Char.ofNat code.toNat

/-- Texts with another one between them.  Those without characters are left out. -/
def chained (between : String) (cells : List Cell) : Cell :=
  .text (between.intercalate ((cells.filterMap Cell.text?).filter (fun text => !text.isEmpty)))

def ofTexts? (name : String) (cells : List Cell) : Option Cell :=
  match name, cells with
  | "length", [a] => some (length a)
  | "octet_length", [a] => some (if a = .null then .null else .integer (bytes a).length)
  | "lower", [a] => some (mapped Char.toLower a)
  | "upper", [a] => some (mapped Char.toUpper a)
  | "trim", a :: rest => some (trimmed true true a rest.head?)
  | "ltrim", a :: rest => some (trimmed true false a rest.head?)
  | "rtrim", a :: rest => some (trimmed false true a rest.head?)
  | "substr", a :: start :: rest | "substring", a :: start :: rest =>
      some (part a start rest.head?)
  | "instr", [a, b] =>
      some (if a = .null ∨ b = .null then .null
        else
          match a, b with
          | .blob x, .blob y => .integer (placeOf y 1 x)
          | a, b => .integer (placeOf (chars b) 1 (chars a)))
  | "replace", [a, b, c] =>
      some (if a = .null ∨ b = .null then .null
        else if (chars b).isEmpty then .text (String.ofList (chars a))
        else if c = .null then .null
        else
          .text (String.ofList (replaced (chars b) (chars c) ((chars a).length + 1) (chars a))))
  | "hex", [a] => some (.text (digits (bytes a)))
  | "quote", [a] => some (.text (quoted a))
  | "unicode", [a] => some (((chars a).head?.map (fun c => Cell.integer c.toNat)).getD .null)
  | "char", cells => some (.text (String.ofList (cells.map charOf)))
  | "concat", cells => some (chained "" cells)
  | "concat_ws", a :: rest => some ((a.text?.map (fun between => chained between rest)).getD .null)
  | "like", [a, b] => some (agreement a b (Pattern.like none))
  | "like", [a, b, c] =>
      some (if c = .null then .null else agreement a b (Pattern.like (chars c).head?))
  | "glob", [a, b] => some (agreement a b Pattern.glob)
  | "json_valid", a :: _ =>
      some (if a = .null then .null else Cell.ofTruth (some (isDocument a)))
  | _, _ => none

/-- The functions that tell the time. -/
def ofClock : List String :=
  ["current_date", "current_time", "current_timestamp", "date", "datetime", "strftime", "time"]

/-- What a function makes of cells of any kind. -/
def result (name : String) (collation : Collation) (cells : List Cell) : Cell :=
  match name, cells with
  | "abs", [a] => size a
  | "sign", [a] => sign a
  | "round", a :: rest =>
      if rest.head? = some .null then .null else rounded a ((rest.head?.map smallNumber).getD 0)
  | "typeof", [a] => .text a.kind.toLower
  | "coalesce", cells | "ifnull", cells => (cells.find? (· != .null)).getD .null
  | "iif", [a, b, c] => if a.truth? = some true then b else c
  | "nullif", [a, b] => if a.agrees collation b then .null else a
  | "likely", [a] | "unlikely", [a] | "likelihood", [a, _] => a
  | "max", cells => extreme collation true cells
  | "min", cells => extreme collation false cells
  | "zeroblob", [a] => .blob (List.replicate a.whole.toNat 0)
  | name, cells => if ofClock.contains name then .text "" else (ofTexts? name cells).getD .null

end Results

end Function
end Likeness
