import Likeness.Store.Definition
import Likeness.Store.Image.Entry

/-!
# Packed rows

The cells of a row are packed into bytes: a head with the forms of the cells, and behind it
their contents.  A form says how many bytes a cell has and what they mean.

`Packed.cells?` reads those cells that are asked for, `Packed.lastNumber?` the number at the end,
`Packed.compare?` compares cells with those of a key, and `Packed.bytes` writes a row.
-/

-- sums start from the zero of the core library
attribute [local instance (high)] Zero.ofOfNat0

namespace Likeness
namespace Packed

open Image

section Reading

/-- Number of bytes of a cell of a given form. -/
def width (form : Nat) : Nat :=
  match form with
  | 5 => 6
  | 6 | 7 => 8
  | 8 | 9 | 10 | 11 => 0
  | form => if form < 5 then form else (form - 12) / 2

/-- A cell of a given form, with its bytes at a place. -/
def cellAt (encoding : Encoding) (packed : ByteArray) (form place : Nat) : Cell :=
  match form with
  | 0 | 10 | 11 => .null
  | 7 => .ofReal ⟨(numberAt packed place 8).toUInt64⟩
  | 8 => .integer 0
  | 9 => .integer 1
  | form =>
      if form < 7 then .integer (signedAt packed place (width form))
      else
        let bytes := (packed.extract place (place + width form)).toList
        if form % 2 = 0 then .blob bytes
        else
          match encoding.decode bytes with
          | .ok text => .text text
          | .error bytes => .garbled bytes

/-- A number of a head.  One that does not fit four bytes counts as the largest. -/
def headNumber (packed : ByteArray) (place : Nat) : Nat × Nat :=
  let (number, next) := longAt packed place
  (min number (2 ^ 32 - 1), next)

/-- At most `count` forms, but at least one, from a place in the head up to its end, and the
place behind them. -/
def forms (head : ByteArray) (finish : Nat) : (count place : Nat) → List Nat × Nat
  | 0, place => ([], place)
  | count + 1, place =>
      let (form, next) := headNumber head place
      if finish ≤ next then ([form], next)
      else
        let (others, last) := forms head finish count next
        (form :: others, last)

/-- The largest head that goes on behind its page. -/
def headLimit : Nat := 98307

/-- The cells at some places of an entry.  A cell at another place is left empty, and what is
behind the last place is not looked at. -/
def cells? (image : Image) (entry : PageEntry) (needed : List Nat) : Option (List Cell) := do
  let (size, start) := if entry.size = 0 then (entry.lead, 1) else headNumber entry.there 0
  if size = 0 ∨ needed.isEmpty then return []
  if entry.there.size < size ∧ (entry.size < size ∨ headLimit < size) then none
  let head ← entry.upTo? image size
  let (forms, finish) := forms head size (needed.foldl max 0 + 1) start
  let total := size + (forms.map width).sum
  if entry.size < total ∨ (size ≤ finish ∧ (size < finish ∨ total ≠ entry.size)) then none
  let places := forms.zipIdx.map (fun (form, k) => (form, k, size + ((forms.take k).map width).sum))
  places.mapM (fun (form, k, place) =>
    if needed.contains k then do
      let bytes ← entry.upTo? image (place + width form)
      return cellAt image.encoding bytes form place
    else some .null)

/-- The whole number at the end of an entry, which is the number of a row. -/
def lastNumber? (image : Image) (entry : PageEntry) : Option Int := do
  let packed ← entry.bytes? image
  let (size, _) := headNumber packed 0
  if size < 3 ∨ packed.size < size then none
  let form := (headNumber packed (size - 1)).1
  let count := width form
  if form = 0 ∨ form = 7 ∨ 9 < form ∨ packed.size < size + count then none
  match cellAt image.encoding packed form (packed.size - count) with
  | .integer number => return number
  | _ => none

end Reading

section Comparing

/-- Whether a form is that of a text or of bytes. -/
def isLong (form : Nat) : Bool := 12 ≤ form

/-- The order of the cells of a packed row, whose head has a size, and those of a key; `rest` is
the answer if all of them agree. -/
def compareFrom? (image : Image) (packed : ByteArray) (size : Nat) (rest : Ordering) :
    List (KeyPart × Cell) → (headPlace place : Nat) → Option Ordering
  | [], _, _ => some rest
  | (part, wanted) :: key, headPlace, place =>
      let (form, next) := headNumber packed headPlace
      let found := cellAt image.encoding packed form place
      if isLong form && found.rank == wanted.rank && packed.size < place + width form then none
      else
        let order := found.order part.collation wanted
        if order ≠ .eq then
          some (if part.isTurned && image.isRecent then order.swap else order)
        else if key.isEmpty ∨ packed.size < place + width form then some rest
        else if size ≤ next then none
        else compareFrom? image packed size rest key next (place + width form)

/-- The order of the cells of a packed row and those of a key. -/
def compare? (image : Image) (packed : ByteArray) (key : List (KeyPart × Cell))
    (rest : Ordering) : Option Ordering :=
  let (size, start) := headNumber packed 0
  if packed.size < size then none else compareFrom? image packed size rest key start size

end Comparing

section Writing

/-- The forms of whole numbers, and their numbers of bytes. -/
def integerForms : List (Nat × Nat) :=
  [(1, 1), (2, 2), (3, 3), (4, 4), (5, 6), (6, 8)]

/-- The form of a whole number, and its bytes.  Not every file has forms for zero and one. -/
def packInteger (isRecent : Bool) (value : Int) : Nat × List UInt8 :=
  if isRecent ∧ value = 0 then (8, [])
  else if isRecent ∧ value = 1 then (9, [])
  else
    let fits := fun (_, count) => decide (Int.bmod value (256 ^ count) = value)
    let (form, count) := (integerForms.find? fits).getD (6, 8)
    (form, bytesOf count value)

/-- The form of a double precision number, and its bytes.  A whole number that has at most six
bytes is kept as such. -/
def packReal (isRecent : Bool) (value : Binary64) : Nat × List UInt8 :=
  match (Cell.wholeOf? value).filter (fun whole => Int.bmod whole (256 ^ 6) = whole) with
  | some whole => packInteger isRecent whole
  | none => (7, bytesOf 8 value.bits.toNat)

/-- The form of a cell, and its bytes.  A double precision number of a column for such numbers
may be kept as a whole one. -/
def pack (image : Image) (affinity : Affinity) : Cell → Nat × List UInt8
  | .null => (0, [])
  | .integer value => packInteger image.isRecent value
  | .real value =>
      if affinity = .real then packReal image.isRecent value
      else (7, bytesOf 8 value.bits.toNat)
  | .text value =>
      let bytes := image.encoding.encode value
      (13 + 2 * bytes.length, bytes)
  | .garbled bytes => (13 + 2 * bytes.length, bytes)
  | .blob bytes => (12 + 2 * bytes.length, bytes)

/-- The bytes of a row of cells of columns with some affinities. -/
def bytes (image : Image) (cells : List (Affinity × Cell)) : ByteArray :=
  let packed := cells.map (fun (affinity, cell) => pack image affinity cell)
  let head := packed.flatMap (fun (form, _) => longBytes form)
  let size := if head.length < 127 then head.length + 1 else head.length + 2
  (longBytes size ++ head ++ packed.flatMap Prod.snd).toByteArray

end Writing

end Packed
end Likeness
