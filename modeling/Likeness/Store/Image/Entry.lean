import Likeness.Store.Image.Page

/-!
# Entries of pages

An entry has a number, unless it is a key, and bytes.  What does not fit on its page goes on in
a chain of further pages, each of which starts with the number of the next one.

An entry is read only as far as it is asked for, so that what is wrong with the rest of it is
not noticed.
-/

namespace Likeness

/-- An entry of a page. -/
structure PageEntry where
  /-- The number of a row.  Keys have none. -/
  number : Int
  /-- Number of its bytes. -/
  size : Nat
  /-- Its bytes on its page. -/
  there : ByteArray
  /-- Whether all of them lie in the part of the page that is in use. -/
  isInside : Bool
  /-- The page where it goes on. -/
  next : Nat
  /-- The byte where its bytes start, even if there are none. -/
  lead : Nat

namespace Page

open Image

def placeOf (page : Page) (k : Nat) : Nat :=
  pairAt page.bytes (page.start + page.headSize + 2 * k) % page.bytes.size

/-- The page in front of an entry, or behind the last one. -/
def childOf (page : Page) (k : Nat) : Nat :=
  if k < page.count then quadAt page.bytes (page.placeOf k) else page.last

/-- The entry at a place of a page of keys, or of a leaf. -/
def entryAt (image : Image) (page : Page) (place : Nat) : PageEntry :=
  let (size, place) := sizeAt page.bytes (if page.isLeaf then place else place + 4)
  let (number, place) := if page.isTable then longAt page.bytes place else (0, place)
  let share := image.localSize page.isTable size
  ⟨Int.bmod number (2 ^ 64), size, page.bytes.extract place (place + share),
    place + share ≤ image.use, quadAt page.bytes (place + share), byteAt page.bytes place⟩

/-- An entry of a page of keys, or of a leaf. -/
def entry (image : Image) (page : Page) (k : Nat) : PageEntry :=
  page.entryAt image (page.placeOf k)

/-- The number of an entry of a page of rows. -/
def numberOf (page : Page) (k : Nat) : Int :=
  let place := page.placeOf k
  let place := if page.isLeaf then (longAt page.bytes place).2 else place + 4
  Int.bmod (longAt page.bytes place).1 (2 ^ 64)

end Page

namespace PageEntry

open Image

/-- Bytes that go on in a chain of pages, of which `left` are missing. -/
def chain? (image : Image) : (fuel left number : Nat) → ByteArray → Option ByteArray
  | 0, _, _, _ => none
  | fuel + 1, left, number, bytes => do
      if left = 0 then return bytes
      let page ← image.page? number
      let size := min left (image.use - 4)
      chain? image fuel (left - size) (quadAt page 0) (bytes ++ page.extract 4 (4 + size))

/-- The first bytes of an entry. -/
def upTo? (image : Image) (entry : PageEntry) (count : Nat) : Option ByteArray :=
  if count ≤ entry.there.size then some (entry.there.extract 0 count)
  else if !entry.isInside || image.pageSize * image.pages.size < count then none
  else chain? image (count + 1) (count - entry.there.size) entry.next entry.there

def bytes? (image : Image) (entry : PageEntry) : Option ByteArray :=
  entry.upTo? image entry.size

/-- The pages on which an entry goes on, of which there are at most `left`. -/
def furtherFrom (image : Image) : (left number : Nat) → List Nat
  | 0, _ => []
  | left + 1, number =>
      match image.page? number with
      | none => []
      | some page => number :: furtherFrom image left (quadAt page 0)

/-- The pages on which an entry goes on. -/
def further (image : Image) (entry : PageEntry) : List Nat :=
  let left := entry.size - entry.there.size
  furtherFrom image ((left + image.use - 5) / (image.use - 4)) entry.next

end PageEntry
end Likeness
