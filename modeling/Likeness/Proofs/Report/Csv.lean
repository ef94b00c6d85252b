import Likeness.Proofs.Batch.Records
import Likeness.Proofs.Binary64.Text
import Likeness.Report.Csv
import Mathlib.Data.List.Forall2

/-!
# Tables are read back

A reader of comma separated tables takes one character after the other.  Fields end with a comma,
rows with a line feed.  A field that starts with a double quote goes on to the next double quote
that is not doubled, and may hold anything; any other field holds neither a double quote nor a
line break.  Everything else is refused, an unfinished row at the end included.

Whatever their names are, the tables of records and of matrices are read back field by field.

**Main statements.**
* `Scan.reads_field`: a field is read back, special characters or not.
* `Scan.readAll_row`: so are the fields of a row.
* `read?_records`, `exists_read?_matrix`: so are the two kinds of tables.
* `tables_are_read_back`: both together.
-/

namespace Likeness
namespace Csv

section Reader

/-- Where a reader stands. -/
inductive Place
  /-- Where a field begins. -/
  | start
  /-- In a field without quotes. -/
  | bare
  /-- Between the quotes of a field. -/
  | quoted
  /-- Behind a quote in a quoted field, which ends the field or is the first one of two. -/
  | behindQuote
deriving DecidableEq, Repr

/-- The finished rows, the finished fields of the current row, and the characters of the current
field. -/
structure Scan where
  rows : List (List String)
  fields : List String
  chars : List Char
  place : Place
deriving DecidableEq, Repr

namespace Scan

def initial : Scan :=
  ⟨[], [], [], .start⟩

/-- One more character of the current field. -/
def add (r : Scan) (c : Char) (place : Place) : Scan :=
  { r with chars := r.chars ++ [c], place }

def endField (r : Scan) : Scan :=
  { r with fields := r.fields ++ [String.ofList r.chars], chars := [], place := .start }

/-- The current field ends, and the current row with it. -/
def endRow (r : Scan) : Scan :=
  { r.endField with rows := r.rows ++ [r.endField.fields], fields := [] }

/-- What the reader does with one character, unless it is out of place. -/
def step (r : Scan) (c : Char) : Option Scan :=
  match r.place, c with
  | .quoted, '"' => some { r with place := .behindQuote }
  | .quoted, c => some (r.add c .quoted)
  | .behindQuote, '"' => some (r.add '"' .quoted)
  | .start, '"' => some { r with place := .quoted }
  | _, ',' => some r.endField
  | _, '\n' => some r.endRow
  | .behindQuote, _ => none
  | _, '"' => none
  | _, '\r' => none
  | _, c => some (r.add c .bare)

def readAll (r : Scan) (cs : List Char) : Option Scan :=
  cs.foldlM step r

/-- The rows, unless the last one is unfinished. -/
def finish? (r : Scan) : Option (List (List String)) :=
  if r.place = .start ∧ r.fields = [] then some r.rows else none

end Scan

/-- The rows of a table. -/
def read? (text : String) : Option (List (List String)) :=
  (Scan.initial.readAll text.toList).bind Scan.finish?

end Reader

namespace Scan

section Fields

variable {r : Scan} {rows : List (List String)} {fields : List String} {chars : List Char}
  {place : Place}

@[simp] theorem readAll_nil (r : Scan) : r.readAll [] = some r := rfl

theorem readAll_cons (r : Scan) (c : Char) (cs : List Char) :
    r.readAll (c :: cs) = (r.step c).bind (·.readAll cs) := by
  rw [readAll, List.foldlM_cons]
  rfl

theorem readAll_append (r : Scan) (cs cs' : List Char) :
    r.readAll (cs ++ cs') = (r.readAll cs).bind (·.readAll cs') := by
  rw [readAll, List.foldlM_append]
  rfl

theorem step_comma (outside : place ≠ .quoted) :
    step ⟨rows, fields, chars, place⟩ ',' =
      some ⟨rows, fields ++ [String.ofList chars], [], .start⟩ := by
  cases place with
  | quoted => exact absurd rfl outside
  | start | bare | behindQuote => rfl

theorem step_lineFeed (outside : place ≠ .quoted) :
    step ⟨rows, fields, chars, place⟩ '\n' =
      some ⟨rows ++ [fields ++ [String.ofList chars]], [], [], .start⟩ := by
  cases place with
  | quoted => exact absurd rfl outside
  | start | bare | behindQuote => rfl

/-- Quotes open a field at its start only. -/
theorem step_quote_start :
    step ⟨rows, fields, chars, .start⟩ '"' = some ⟨rows, fields, chars, .quoted⟩ := rfl

theorem step_quote_quoted :
    step ⟨rows, fields, chars, .quoted⟩ '"' = some ⟨rows, fields, chars, .behindQuote⟩ := rfl

/-- A second quote makes both of them a character of the field. -/
theorem step_quote_behindQuote :
    step ⟨rows, fields, chars, .behindQuote⟩ '"' = some ⟨rows, fields, chars ++ ['"'], .quoted⟩ :=
  rfl

theorem step_quoted {c : Char} (other : c ≠ '"') :
    step ⟨rows, fields, chars, .quoted⟩ c = some ⟨rows, fields, chars ++ [c], .quoted⟩ := by
  simp [step, add]

theorem step_of_not_special {c : Char} (plain : isSpecial c = false)
    (here : place = .start ∨ place = .bare) :
    step ⟨rows, fields, chars, place⟩ c = some ⟨rows, fields, chars ++ [c], .bare⟩ := by
  simp only [isSpecial, Bool.or_eq_false_iff, decide_eq_false_iff_not] at plain
  obtain ⟨⟨⟨comma, quote⟩, lineFeed⟩, carriageReturn⟩ := plain
  rcases here with rfl | rfl <;> simp [step, add, quote]

/-- Characters without a special one among them belong to a field without quotes. -/
theorem exists_readAll_bare {cs : List Char} (plain : ∀ c ∈ cs, isSpecial c = false)
    (here : place = .start ∨ place = .bare) (rows : List (List String)) (fields : List String)
    (chars : List Char) :
    ∃ place', (place' = .start ∨ place' = .bare) ∧
      readAll ⟨rows, fields, chars, place⟩ cs = some ⟨rows, fields, chars ++ cs, place'⟩ := by
  induction cs generalizing chars place with
  | nil => exact ⟨place, here, by rw [readAll_nil, List.append_nil]⟩
  | cons c cs ih =>
      obtain ⟨place', there, rest⟩ :=
        ih (fun c mem => plain c (.tail _ mem)) (Or.inr rfl) (chars ++ [c])
      refine ⟨place', there, ?_⟩
      rw [readAll_cons, step_of_not_special (plain c (.head _)) here, Option.bind_some, rest,
        List.append_assoc, List.singleton_append]

/-- Between quotes each character stands for itself, and two quotes for one. -/
theorem readAll_doubled (cs : List Char) :
    readAll ⟨rows, fields, chars, .quoted⟩ (doubled cs) =
      some ⟨rows, fields, chars ++ cs, .quoted⟩ := by
  induction cs generalizing chars with
  | nil => rw [doubled, readAll_nil, List.append_nil]
  | cons c cs ih =>
      rw [doubled]
      split
      · next quote =>
          subst quote
          rw [readAll_cons, step_quote_quoted, Option.bind_some, readAll_cons,
            step_quote_behindQuote, Option.bind_some, ih, List.append_assoc,
            List.singleton_append]
      · next other =>
          rw [readAll_cons, step_quoted other, Option.bind_some, ih, List.append_assoc,
            List.singleton_append]

/-- A text that is read as a field with this value. -/
def Reads (text value : String) : Prop :=
  ∀ rows fields, ∃ place, place ≠ .quoted ∧
    readAll ⟨rows, fields, [], .start⟩ text.toList = some ⟨rows, fields, value.toList, place⟩

theorem reads_of_not_special {text : String} (plain : ∀ c ∈ text.toList, isSpecial c = false) :
    Reads text text := by
  intro rows fields
  obtain ⟨place, there, all⟩ := exists_readAll_bare plain (Or.inl rfl) rows fields []
  refine ⟨place, ?_, all⟩
  rintro rfl
  simp at there

theorem reads_field (value : String) : Reads (field value) value := by
  unfold field
  simp only
  split
  · intro rows fields
    refine ⟨.behindQuote, by decide, ?_⟩
    rw [String.toList_ofList, readAll_cons, step_quote_start, Option.bind_some, readAll_append,
      readAll_doubled, Option.bind_some, readAll_cons, step_quote_quoted, Option.bind_some,
      readAll_nil, List.nil_append]
  · next plain =>
      refine reads_of_not_special ?_
      simpa [List.any_eq_true] using plain

/-- Number texts are fields that need no quotes. -/
theorem reads_numerals {text : String} (numerals : ∀ c ∈ text.toList, Binary64.isNumeral c = true) :
    Reads text text := by
  refine reads_of_not_special ?_
  intro c mem
  have numeral := numerals c mem
  rw [Bool.eq_false_iff]
  intro special
  simp only [isSpecial, Bool.or_eq_true, decide_eq_true_eq] at special
  rcases special with ((rfl | rfl) | rfl) | rfl <;> cases numeral

end Fields

section Rows

variable {rows : List (List String)}

theorem comma_toList : ",".toList = [','] := rfl

theorem lineFeed_toList : "\n".toList = ['\n'] := rfl

theorem readAll_row {texts values : List String} (read : List.Forall₂ Reads texts values)
    (nonempty : texts ≠ []) (fields : List String) :
    readAll ⟨rows, fields, [], .start⟩ (row texts).toList =
      some ⟨rows ++ [fields ++ values], [], [], .start⟩ := by
  rw [row, String.toList_append]
  induction read generalizing fields with
  | nil => exact absurd rfl nonempty
  | @cons text value texts values first others ih =>
      obtain ⟨place, outside, all⟩ := first rows fields
      cases others with
      | nil =>
          rw [String.intercalate_singleton, readAll_append, all, Option.bind_some,
            lineFeed_toList, readAll_cons, step_lineFeed outside, String.ofList_toList,
            Option.bind_some, readAll_nil]
      | @cons text' value' texts values second others =>
          rw [String.intercalate_cons_cons, String.toList_append, String.toList_append,
            List.append_assoc, List.append_assoc, readAll_append, all, Option.bind_some,
            comma_toList, List.singleton_append, readAll_cons, step_comma outside,
            String.ofList_toList, Option.bind_some, ih (by simp), List.append_assoc,
            List.singleton_append]

/-- A text that is read as a row with these fields. -/
def ReadsRow (text : String) (values : List String) : Prop :=
  ∀ rows, readAll ⟨rows, [], [], .start⟩ text.toList =
    some ⟨rows ++ [values], [], [], .start⟩

theorem readsRow_row {texts values : List String} (read : List.Forall₂ Reads texts values)
    (nonempty : texts ≠ []) : ReadsRow (row texts) values :=
  fun _ => readAll_row read nonempty []

theorem readAll_join {texts : List String} {table : List (List String)}
    (read : List.Forall₂ ReadsRow texts table) :
    readAll ⟨rows, [], [], .start⟩ (String.join texts).toList =
      some ⟨rows ++ table, [], [], .start⟩ := by
  induction read generalizing rows with
  | nil => rw [String.join_nil, List.append_nil]; rfl
  | cons first _ ih =>
      rw [String.join_cons, String.toList_append, readAll_append, first rows, Option.bind_some, ih,
        List.append_assoc, List.singleton_append]

end Rows

end Scan

section Tables

open Scan

/-- Rows under a header are read back. -/
theorem read?_join {α : Type} {above : String} {header : List String} {text : α → String}
    {fields : α → List String} {items : List α} (first : ReadsRow above header)
    (others : ∀ x ∈ items, ReadsRow (text x) (fields x)) :
    read? (String.join (above :: items.map text)) = some (header :: items.map fields) := by
  have rows : List.Forall₂ ReadsRow (items.map text) (items.map fields) := by
    rw [List.forall₂_map_left_iff, List.forall₂_map_right_iff, List.forall₂_same]
    exact others
  rw [read?, initial, readAll_join (.cons first rows), Option.bind_some, List.nil_append]
  rfl

example : read? "a,\"b\"\"\r\nc\"\n" = some [["a", "b\"\r\nc"]] := rfl

theorem reads_toString (n : Nat) : Reads (toString n) (toString n) := by
  refine reads_numerals ?_
  intro c mem
  rw [Nat.toString_eq_ofList_toDigits, String.toList_ofList] at mem
  exact Binary64.isNumeral_of_isDigit (Nat.isDigit_of_mem_toDigits (by decide) (by decide) mem)

theorem reads_plain (x : Binary64) : Reads x.plain x.plain :=
  reads_numerals fun _ => Binary64.isNumeral_of_mem_plain

theorem reads_fixed (places : Nat) (x : Binary64) : Reads (x.fixed places) (x.fixed places) :=
  reads_numerals fun _ => Binary64.isNumeral_of_mem_fixed

section Records

/-- The names above the columns of a table of records. -/
def recordHeader : List String :=
  ["file1", "file2", "edit_distance", "similarity"]

def recordFields (r : Record) : List String :=
  [r.file1, r.file2, toString r.distance, r.similarity.plain]

theorem row_recordHeader : "file1,file2,edit_distance,similarity\n" = row recordHeader := rfl

theorem records_eq_join (rs : List Record) :
    records rs = String.join (row recordHeader :: rs.map recordRow) := by
  rw [String.join_cons, ← row_recordHeader]
  rfl

theorem readsRow_recordHeader : ReadsRow (row recordHeader) recordHeader := by
  have plain : ∀ name ∈ recordHeader, ∀ c ∈ name.toList, isSpecial c = false := by
    simp [recordHeader, isSpecial]
  exact readsRow_row (List.forall₂_same.2 fun name mem => reads_of_not_special (plain name mem))
    (List.cons_ne_nil _ _)

theorem readsRow_recordRow (r : Record) : ReadsRow (recordRow r) (recordFields r) := by
  refine readsRow_row ?_ (List.cons_ne_nil _ _)
  exact .cons (reads_field _) (.cons (reads_field _) (.cons (reads_toString _)
    (.cons (reads_plain _) .nil)))

theorem read?_records (rs : List Record) :
    read? (records rs) = some (recordHeader :: rs.map recordFields) := by
  rw [records_eq_join]
  exact read?_join readsRow_recordHeader fun r _ => readsRow_recordRow r

end Records

section Matrices

variable {identifiers : List String} {m : SymmetricMatrix Binary64}

theorem row_cons (text : String) {texts : List String} (nonempty : texts ≠ []) :
    row (text :: texts) = text ++ "," ++ row texts := by
  rw [row, row, String.intercalate_cons_of_ne_nil nonempty, String.append_assoc]

/-- The row of a name with its cells. -/
def matrixText (line : String × List Binary64) : String :=
  row (field line.1 :: line.2.map (Binary64.fixed 4))

/-- The fields of a name with its cells. -/
def matrixFields (line : String × List Binary64) : List String :=
  line.1 :: line.2.map (Binary64.fixed 4)

theorem readsRow_matrixText (line : String × List Binary64) :
    ReadsRow (matrixText line) (matrixFields line) := by
  refine readsRow_row (.cons (reads_field _) ?_) (List.cons_ne_nil _ _)
  rw [List.forall₂_same]
  intro text mem
  obtain ⟨x, _, rfl⟩ := List.mem_map.1 mem
  exact reads_fixed 4 x

/-- The first row has an empty field, and a field for each identifier. -/
theorem readsRow_identifiers (identifiers : List String) :
    ReadsRow (row ("" :: identifiers.map field)) ("" :: identifiers) := by
  refine readsRow_row (.cons (reads_of_not_special (by simp)) ?_) (List.cons_ne_nil _ _)
  rw [List.forall₂_map_left_iff, List.forall₂_same]
  exact fun name _ => reads_field name

theorem matrixRow?_eq {name : String} {i : Nat} {cells : List Binary64}
    (there : m.row? i = some cells) (nonempty : cells ≠ []) :
    matrixRow? m name i = some (matrixText (name, cells)) := by
  rw [matrixText, row_cons _ (by simpa using nonempty)]
  unfold matrixRow?
  rw [there]
  rfl

theorem matrix?_eq_join {texts : List String} (nonempty : identifiers ≠ [])
    (written : identifiers.zipIdx.mapM (fun (name, i) => matrixRow? m name i) = some texts) :
    matrix? identifiers m =
      some (String.join (row ("" :: identifiers.map field) :: texts)) := by
  rw [String.join_cons, row_cons _ (by simpa using nonempty), String.empty_append]
  unfold matrix?
  rw [written]
  rfl

/-- A table of a matrix has all rows, and is read back. -/
theorem exists_read?_matrix (nonempty : identifiers ≠ []) (size : m.size = identifiers.length)
    (enough : m.size * m.size ≤ m.cells.size) :
    ∃ rows text, m.rows? = some rows ∧ rows.length = identifiers.length ∧
      matrix? identifiers m = some text ∧
        read? text = some (("" :: identifiers) :: (identifiers.zip rows).map matrixFields) := by
  choose! cells there width _ using fun i => SymmetricMatrix.row?_spec enough (i := i)
  have rows : m.rows? = some ((List.range m.size).map cells) := by
    rw [SymmetricMatrix.rows?, mapM_eq_some_iff, List.map_map]
    exact List.map_congr_left fun i mem => there i (List.mem_range.1 mem)
  have lines : identifiers.zip ((List.range m.size).map cells) =
      identifiers.zipIdx.map (Prod.map id cells) := by
    rw [List.zip_map_right, List.zipIdx_eq_zip_range', size, List.range_eq_range']
  have written : identifiers.zipIdx.mapM (fun (name, i) => matrixRow? m name i) =
      some ((identifiers.zip ((List.range m.size).map cells)).map matrixText) := by
    rw [lines, mapM_eq_some_iff, List.map_map, List.map_map]
    refine List.map_congr_left ?_
    rintro ⟨name, i⟩ mem
    have inside : i < m.size := by
      rw [size]
      exact (List.mem_zipIdx' mem).1
    refine matrixRow?_eq (there i inside) ?_
    rw [Ne, ← List.length_eq_zero_iff, width i inside]
    omega
  refine ⟨_, _, rows, ?_, matrix?_eq_join nonempty written,
    read?_join (readsRow_identifiers identifiers) fun line _ => readsRow_matrixText line⟩
  rw [List.length_map, List.length_range, size]

end Matrices

/-- Both kinds of tables are read back, whatever names there are. -/
theorem tables_are_read_back :
    (∀ rs : List Record,
      read? (records rs) =
        some (["file1", "file2", "edit_distance", "similarity"] ::
          rs.map fun r => [r.file1, r.file2, toString r.distance, r.similarity.plain])) ∧
    ∀ (identifiers : List String) (m : SymmetricMatrix Binary64), identifiers ≠ [] →
      m.size = identifiers.length → m.size * m.size ≤ m.cells.size →
        ∃ rows text, m.rows? = some rows ∧ rows.length = identifiers.length ∧
          matrix? identifiers m = some text ∧
            read? text = some (("" :: identifiers) ::
              (identifiers.zip rows).map fun (name, cells) =>
                name :: cells.map (Binary64.fixed 4)) :=
  ⟨read?_records, fun _ _ => exists_read?_matrix⟩

theorem tables_are_read_back_of_special :
    ["", "a,\"b\"", "\r\n"] ≠ [] ∧ (similarityMatrix 3).size = 3 ∧
      3 * 3 ≤ (similarityMatrix 3).cells.size ∧
        ∃ rows text, (similarityMatrix 3).rows? = some rows ∧ rows.length = 3 ∧
          matrix? ["", "a,\"b\"", "\r\n"] (similarityMatrix 3) = some text ∧
            read? text = some (["", "", "a,\"b\"", "\r\n"] ::
              (["", "a,\"b\"", "\r\n"].zip rows).map fun (name, cells) =>
                name :: cells.map (Binary64.fixed 4)) :=
  have enough := (SymmetricMatrix.isSquare_filled 3 Binary64.one .zero).ge
  ⟨by decide, rfl, enough,
    tables_are_read_back.2 ["", "a,\"b\"", "\r\n"] (similarityMatrix 3) (by decide) rfl enough⟩

end Tables

end Csv
end Likeness
