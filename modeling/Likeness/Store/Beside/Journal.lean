import Likeness.Store.Head

/-!
# Journals

While a file is changed, a journal beside it keeps what its pages held before.  A journal that is
still there when a file is opened belongs to a change that was never finished, and the file is made
what it was: `Journal.undone`.

A journal is divided into parts.  A part starts with a head, which says how many records follow, and
each record is a page with its number and a sum over some of its bytes.  What cannot be read ends
the journal.
-/

namespace Likeness
namespace Journal

open Image

/-- The bytes at the start of each head. -/
def mark : List UInt8 := [217, 213, 5, 249, 32, 161, 99, 215]

/-- The room for a head, as long as the journal has not said otherwise. -/
def usualRoom : Nat := 512

/-- The sizes of the room for a head. -/
def rooms : List Nat := (List.range 12).map (fun k => 32 * 2 ^ k)

def pageSizes : List Nat := (List.range 8).map (fun k => 512 * 2 ^ k)

/-- The size of a page if nothing says what it is. -/
def usualPageSize : Nat := 4096

/-- The byte of a file that no page may be about. -/
def lockPlace : Nat := 2 ^ 30

/-- What the first head of a journal says about all of it. -/
structure Form where
  /-- The room for a head. -/
  room : Nat
  pageSize : Nat
  /-- Number of pages that the file had. -/
  pages : Nat

/-- Whether there is a head at a place. -/
def hasHead (journal : ByteArray) (room place : Nat) : Bool :=
  place + room ≤ journal.size
    && (journal.extract place (place + mark.length)).toList == mark

/-- What a journal beside a file with pages of a given size is like, if there is anything in it. -/
def form? (pageSize : Nat) (journal : ByteArray) : Option Form :=
  if !hasHead journal usualRoom 0 then none
  else
    let room := quadAt journal 20
    let written := quadAt journal 24
    let pageSize := if written = 0 then pageSize else written
    if rooms.contains room && pageSizes.contains pageSize then
      some ⟨room, pageSize, quadAt journal 16⟩
    else none

/-- Number of bytes between two of those that the sum of a page goes over. -/
def stride : Nat := 200

/-- The sum of a page of which a given number of bytes is left to go over. -/
def pageSum (journal : ByteArray) (place : Nat) : (count left : Nat) → UInt32 → UInt32
  | 0, _, sum => sum
  | count + 1, left, sum =>
      if left = 0 then sum
      else
        pageSum journal place count (left - stride)
          (sum + (byteAt journal (place + left)).toUInt32)

/-- A file that is being made what it was. -/
structure Undoing where
  content : ByteArray
  /-- Where the journal goes on. -/
  place : Nat
  /-- Whether the journal has come to its end. -/
  isOver : Bool

def undoPage (form : Form) (journal : ByteArray) (first : UInt32) (undoing : Undoing) : Undoing :=
  let place := undoing.place
  let next := place + form.pageSize + 8
  let number := quadAt journal place
  let sum := pageSum journal (place + 4) form.pageSize (form.pageSize - stride) first
  if journal.size < next - 4 || number = 0 || number = lockPlace / form.pageSize + 1 then
    { undoing with isOver := true }
  else if form.pages < number then { undoing with place := next }
  else if journal.size < next || (quadAt journal (next - 4)).toUInt32 != sum then
    { undoing with isOver := true }
  else
    let page := journal.extract (place + 4) (place + 4 + form.pageSize)
    { undoing with content := putPage undoing.content number page, place := next }

/-- Makes pages what they were. -/
def undoPages (form : Form) (journal : ByteArray) (first : UInt32) :
    (count : Nat) → Undoing → Undoing
  | 0, undoing => undoing
  | count + 1, undoing =>
      if undoing.isOver then undoing
      else undoPages form journal first count (undoPage form journal first undoing)

/-- The number of records for all that follow. -/
def allRecords : Nat := 2 ^ 32 - 1

/-- Number of records behind the head at a place. -/
def recordCount (form : Form) (journal : ByteArray) (place : Nat) : Nat :=
  let count := quadAt journal (place + 8)
  let room := (journal.size - form.room) / (form.pageSize + 8)
  if count = allRecords then room else min count (journal.size + 1)

def undoParts (form : Form) (journal : ByteArray) : (count : Nat) → Undoing → Undoing
  | 0, undoing => undoing
  | count + 1, undoing =>
      let place := (undoing.place + form.room - 1) / form.room * form.room
      if undoing.isOver || !hasHead journal form.room place then undoing
      else
        let first := (quadAt journal (place + 12)).toUInt32
        undoParts form journal count
          (undoPages form journal first (recordCount form journal place)
            { undoing with place := place + form.room })

/-- The size of the pages of a file. -/
def pageSizeOf (content : ByteArray) : Nat :=
  let written := Head.pageSize content
  if pageSizes.contains written then written else usualPageSize

/-- What a file held before the change of a journal. -/
def undone (content journal : ByteArray) : ByteArray :=
  match form? (pageSizeOf content) journal with
  | none => content
  | some form =>
      (undoParts form journal (journal.size + 1)
        ⟨resized content (form.pages * form.pageSize), 0, false⟩).content

end Journal
end Likeness
