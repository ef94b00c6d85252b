import Likeness.Store.Image.Number

/-!
# Logs

A file may be changed by way of a log: the changed pages are written into the log, and from there
into the file when nobody uses it.  A log that is there when a file is opened holds changes that
have not got into the file yet: `Log.replayed?` is the file with these.

A log starts with a head and goes on with records.  A record is a page, its number, and the number
of pages that the file has if a change is complete with it.  Sums run through the head and all
records, so that nothing behind a record that was not written properly is taken for one.
-/

namespace Likeness
namespace Log

open Image

/-- Two sums over a row of numbers, which depend on the order of the numbers. -/
structure Sums where
  first : UInt32
  second : UInt32
deriving DecidableEq, Repr

/-- A number of four bytes. -/
def word (isReversed : Bool) (log : ByteArray) (place : Nat) : UInt32 :=
  let byte := fun k : Nat => byteAt log (place + if isReversed then 3 - k else k)
  (2 ^ 24 * byte 0 + 2 ^ 16 * byte 1 + 2 ^ 8 * byte 2 + byte 3).toUInt32

/-- The sums with pairs of numbers added to them. -/
def Sums.more (isReversed : Bool) (log : ByteArray) : (pairs place : Nat) → Sums → Sums
  | 0, _, sums => sums
  | pairs + 1, place, sums =>
      let first := sums.first + word isReversed log place + sums.second
      let second := sums.second + word isReversed log (place + 4) + first
      more isReversed log pairs (place + 8) ⟨first, second⟩

/-- The sums that are written at a place. -/
def sumsAt (log : ByteArray) (place : Nat) : Sums :=
  ⟨word false log place, word false log (place + 4)⟩

/-- What the head of a log says. -/
structure Form where
  pageSize : Nat
  /-- Whether the numbers that are added up have their low bytes first. -/
  isReversed : Bool
  version : Nat
  /-- Eight bytes that stand in each record of this log. -/
  salt : List UInt8
  sums : Sums

/-- Number of bytes of the head. -/
def headSize : Nat := 32

/-- Number of bytes of a record in front of its page. -/
def recordHead : Nat := 24

/-- The number that a log starts with, without its lowest bit. -/
def mark : Nat := 0x377f0682

def version : Nat := 3007000

def pageSizes : List Nat := (List.range 8).map (fun k => 512 * 2 ^ k)

/-- What the head of a log says, if it is one. -/
def form? (log : ByteArray) : Option Form :=
  let start := quadAt log 0
  let isReversed := start == mark
  let pageSize := quadAt log 8
  let sums := Sums.more isReversed log 3 0 ⟨0, 0⟩
  if headSize < log.size && (isReversed || start == mark + 1) && pageSizes.contains pageSize
      && sums == sumsAt log 24 then
    some ⟨pageSize, isReversed, quadAt log 4, (log.extract 16 24).toList, sums⟩
  else none

/-- What a change makes of a file. -/
structure Change where
  /-- Number of pages. -/
  pages : Nat
  /-- The numbers of the changed pages, each with the place of its new content in the log; the
  latest come first. -/
  writes : List (Nat × Nat)
deriving DecidableEq, Repr

/-- The last complete change of a log from a place on, where some pages have been written and a
change has been completed before. -/
def changeFrom (form : Form) (log : ByteArray) :
    (count place : Nat) → Sums → List (Nat × Nat) → Option Change → Option Change
  | 0, _, _, _, last? => last?
  | count + 1, place, sums, writes, last? =>
      let next := place + recordHead + form.pageSize
      let number := quadAt log place
      let pages := quadAt log (place + 4)
      let sums := (sums.more form.isReversed log 1 place).more form.isReversed log
        (form.pageSize / 8) (place + recordHead)
      if log.size < next || (log.extract (place + 8) (place + 16)).toList != form.salt
          || number = 0 || sums != sumsAt log (place + 16) then
        last?
      else
        let writes := (number, place + recordHead) :: writes
        changeFrom form log count next sums writes
          (if pages = 0 then last? else some ⟨pages, writes⟩)

/-- The file after a change. -/
def Change.apply (change : Change) (form : Form) (log content : ByteArray) : ByteArray :=
  (change.writes.reverse.filter (fun (number, _) => number ≤ change.pages)).foldl
    (fun content (number, place) =>
      putPage content number (log.extract place (place + form.pageSize)))
    (resized content (change.pages * form.pageSize))

/-- A file with what a log adds to it.  A log of another version cannot be used. -/
def replayed? (content log : ByteArray) : Option ByteArray :=
  match form? log with
  | none => some content
  | some form =>
      if form.version ≠ version then none
      else
        match changeFrom form log log.size headSize form.sums [] none with
        | none => some content
        | some change => some (change.apply form log content)

end Log
end Likeness
