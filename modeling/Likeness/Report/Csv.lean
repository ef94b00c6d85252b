import Likeness.Batch.Basic
import Likeness.Binary64.Text

/-!
# Comma separated tables

Rows end with a line feed and their fields are separated by commas.  A field that holds a
comma, a double quote or a line break is written between double quotes, with each double
quote in it written twice.

Pairs are written with plain numbers, matrices with four decimal places.
-/

namespace Likeness
namespace Csv

/-- Whether a character forces quotes around its field. -/
def isSpecial (c : Char) : Bool :=
  c = ',' || c = '"' || c = '\n' || c = '\r'

/-- The characters of a field between quotes. -/
def doubled : List Char → List Char
  | [] => []
  | c :: rest => if c = '"' then '"' :: '"' :: doubled rest else c :: doubled rest

def field (value : String) : String :=
  let cs := value.toList
  if cs.any isSpecial then String.ofList ('"' :: (doubled cs ++ ['"'])) else value

/-- A row of fields that are written already. -/
def row (fields : List String) : String :=
  ",".intercalate fields ++ "\n"

def recordRow (r : Record) : String :=
  row [field r.file1, field r.file2, toString r.distance, r.similarity.plain]

def records (rs : List Record) : String :=
  "file1,file2,edit_distance,similarity\n" ++ String.join (rs.map recordRow)

def matrixRow? (m : SymmetricMatrix Binary64) (name : String) (i : Nat) : Option String := do
  let cells ← m.row? i
  return field name ++ "," ++ row (cells.map (Binary64.fixed 4))

/-- The table of a matrix with identifiers above and on the left, unless a row is missing. -/
def matrix? (identifiers : List String) (m : SymmetricMatrix Binary64) : Option String := do
  let rows ← identifiers.zipIdx.mapM (fun (name, i) => matrixRow? m name i)
  return "," ++ row (identifiers.map field) ++ String.join rows

end Csv
end Likeness
