import Likeness.Store.Cell
import Likeness.Store.Image.Number

/-!
# Pages

The file of a store is divided into pages of one size, some bytes at the end of each of which
are spare.  A page of a tree has a head, the places of its entries, a free part, and its
entries; a part that has become free again starts with the place of the next such part and
with its own size.

Pages of tables hold rows under their numbers, and pages of keys hold keys.  A page that is no
leaf has a further page in front of each entry and one behind the last.
-/

namespace Likeness

/-- The pages of a file. -/
structure Image where
  pageSize : Nat
  /-- How much of a page is in use. -/
  use : Nat
  encoding : Encoding
  pages : Array ByteArray

namespace Image

/-- A page by its number; the first one has the number one. -/
def page? (image : Image) (number : Nat) : Option ByteArray :=
  if number = 0 then none else image.pages[number - 1]?

/-- The number of the format of the tables. -/
def format (image : Image) : Nat :=
  quadAt ((image.page? 1).getD .empty) 44

/-- Whether the file has forms for zero and one, and keys that may be turned around. -/
def isRecent (image : Image) : Bool :=
  4 ≤ image.format

/-- How many bytes of an entry stand on a page of rows, at most. -/
def rowLimit (image : Image) : Nat :=
  image.use - 35

/-- How many bytes of an entry stand on a page of keys, at most. -/
def keyLimit (image : Image) : Nat :=
  (image.use - 12) * 64 / 255 - 23

/-- How many bytes of an entry that goes on elsewhere stand on its page, at least. -/
def leastLocal (image : Image) : Nat :=
  (image.use - 12) * 32 / 255 - 23

/-- How many of the bytes of an entry stand on its page. -/
def localSize (image : Image) (isTable : Bool) (size : Nat) : Nat :=
  let limit := if isTable then image.rowLimit else image.keyLimit
  if size ≤ limit then size
  else
    let surplus := image.leastLocal + (size - image.leastLocal) % (image.use - 4)
    if surplus ≤ limit then surplus else image.leastLocal

end Image

/-- A page of a tree. -/
structure Page where
  bytes : ByteArray
  /-- Where its head starts. -/
  start : Nat
  isTable : Bool
  isLeaf : Bool
  /-- Number of its entries. -/
  count : Nat

namespace Page

open Image

/-- What the first byte of a page says: whether it is one of a table, and whether it is a
leaf. -/
def kinds : List (Nat × Bool × Bool) :=
  [(13, true, true), (5, true, false), (10, false, true), (2, false, false)]

/-- Where the head of a page starts: on the first page, behind the head of the file. -/
def startOf (number : Nat) : Nat :=
  if number = 1 then 100 else 0

/-- The page of a tree with a given number. -/
def read? (image : Image) (number : Nat) : Option Page := do
  let bytes ← image.page? number
  let start := startOf number
  let (isTable, isLeaf) ← kinds.lookup (byteAt bytes start)
  let count := pairAt bytes (start + 3)
  if (image.pageSize - 8) / 6 < count then none
  return ⟨bytes, start, isTable, isLeaf, count⟩

/-- Number of bytes of the head. -/
def headSize (page : Page) : Nat :=
  if page.isLeaf then 8 else 12

def freeStart (page : Page) : Nat :=
  page.start + page.headSize + 2 * page.count

/-- Where the free part ends.  The number has no room for the largest size of a page. -/
def freeEnd (page : Page) : Nat :=
  let place := pairAt page.bytes (page.start + 5)
  if place = 0 then 65536 else place

def last (page : Page) : Nat :=
  quadAt page.bytes (page.start + 8)

/-- Number of free bytes in the parts that have become free again, from the one at a place on.
Each lies behind the one before. -/
def freedFrom? (page : Page) (use : Nat) : (count place : Nat) → Option Nat
  | 0, _ => none
  | count + 1, place =>
      if use < place + 4 then none
      else
        let next := pairAt page.bytes place
        let size := pairAt page.bytes (place + 2)
        if place + size + 3 < next then (freedFrom? page use count next).map (size + ·)
        else if next = 0 ∧ place + size ≤ use then some size
        else none

/-- Number of free bytes in the parts that have become free again. -/
def freed? (page : Page) (use : Nat) : Option Nat :=
  let first := pairAt page.bytes (page.start + 1)
  if first = 0 then some 0
  else if first < page.freeEnd then none
  else page.freedFrom? use use first

/-- Number of free bytes of a page, if that is well kept. -/
def room? (page : Page) (use : Nat) : Option Nat := do
  let free := page.freeEnd + byteAt page.bytes (page.start + 7) + (← page.freed? use)
  if free ≤ use ∧ page.freeStart ≤ free then return free - page.freeStart else none

end Page
end Likeness
