import Likeness.Store.Image.Entry

/-!
# Pages that are edited

A sheet is a page on which entries are put and from which entries are taken.  An entry is put
into a part that has become free, or in front of all others; when there is room but not in one
place, the entries are moved together first.  An entry that finds no room is kept aside, and the
tree has to be balanced before the sheet can stay.

Every step fails if the page turns out not to be well kept.
-/

namespace Likeness

/-- A page that is edited. -/
structure Sheet extends Page where
  number : Nat
  /-- Number of free bytes. -/
  room : Nat
  /-- The entries that found no room, by the places where they belong. -/
  excess : List (Nat × ByteArray)

namespace Image

/-- Number of bytes of the entry at a place of some bytes. -/
def entrySize (image : Image) (page : Page) (bytes : ByteArray) (place : Nat) : Nat :=
  if page.isTable && !page.isLeaf then (longAt bytes (place + 4)).2 - place
  else
    let (size, next) := sizeAt bytes (if page.isLeaf then place else place + 4)
    let next := if page.isTable then (longAt bytes next).2 else next
    let there := image.localSize page.isTable size
    max 4 (next - place + there + if there < size then 4 else 0)

end Image

namespace Sheet

open Image

section Parts

/-- Number of bytes of an entry. -/
def sizeOf (image : Image) (sheet : Sheet) (k : Nat) : Nat :=
  image.entrySize sheet.toPage sheet.bytes (sheet.placeOf k)

/-- Where the list of the places of the entries starts. -/
def listStart (sheet : Sheet) : Nat :=
  sheet.start + sheet.headSize

/-- The place of an entry, as it is written. -/
def writtenPlace (sheet : Sheet) (k : Nat) : Nat :=
  pairAt sheet.bytes (sheet.listStart + 2 * k)

/-- Where the content starts. -/
def contentStart (sheet : Sheet) : Nat :=
  pairAt sheet.bytes (sheet.start + 5)

/-- The first part that has become free. -/
def firstFreed (sheet : Sheet) : Nat :=
  pairAt sheet.bytes (sheet.start + 1)

/-- Number of bytes that are lost between the entries. -/
def lost (sheet : Sheet) : Nat :=
  byteAt sheet.bytes (sheet.start + 7)

/-- A sheet with other bytes. -/
def withBytes (sheet : Sheet) (bytes : ByteArray) : Sheet :=
  { sheet with bytes }

/-- A sheet with another number of two bytes at a place. -/
def withPair (sheet : Sheet) (place number : Nat) : Sheet :=
  sheet.withBytes (setPair sheet.bytes place number)

/-- A sheet with another number of lost bytes. -/
def withLost (sheet : Sheet) (number : Nat) : Sheet :=
  sheet.withBytes (setByte sheet.bytes (sheet.start + 7) number)

/-- A sheet with another number of entries. -/
def withCount (sheet : Sheet) (count : Nat) : Sheet :=
  { sheet.withPair (sheet.start + 3) count with count }

/-- The places of entries in the list of places, as they are written. -/
def listed (sheet : Sheet) (first finish : Nat) : ByteArray :=
  sheet.bytes.extract (sheet.listStart + 2 * first) (sheet.listStart + 2 * finish)

end Parts

section Freeing

/-- Where the place of the part that is freed next is written, from the one at `at?` on, and
that place; the part lies at `place` or behind it. -/
def spot? (bytes : ByteArray) (place : Nat) : (fuel written : Nat) → Option (Nat × Nat)
  | 0, _ => none
  | fuel + 1, written =>
      let next := pairAt bytes written
      if place ≤ next then some (written, next)
      else if written < next then spot? bytes place fuel next
      else if next = 0 then some (written, 0)
      else none

/-- A part that is freed, joined with the one behind it: where it ends, which one comes next,
and how many lost bytes are between them. -/
def joinNext? (image : Image) (bytes : ByteArray) (finish next : Nat) :
    Option (Nat × Nat × Nat) :=
  if next ≠ 0 ∧ next ≤ finish + 3 then
    let joined := next + pairAt bytes (next + 2)
    if next < finish ∨ image.use < joined then none
    else some (joined, pairAt bytes next, next - finish)
  else some (finish, next, 0)

/-- Enters a part into the list of those that have become free. -/
def enterFreed? (sheet : Sheet) (written first place finish next : Nat) : Option Sheet :=
  if place ≤ sheet.contentStart then
    if place < sheet.contentStart ∨ written ≠ first then none
    else some ((sheet.withPair first next).withPair (sheet.start + 5) finish)
  else
    some (((sheet.withPair written place).withPair place next).withPair (place + 2)
      (finish - place))

/-- Frees a part of a sheet. -/
def free? (image : Image) (sheet : Sheet) (place size : Nat) : Option Sheet := do
  let first := sheet.start + 1
  if sheet.firstFreed = 0 then
    let freed ← sheet.enterFreed? first first place (place + size) 0
    return { freed with room := sheet.room + size }
  let (written, next) ← spot? sheet.bytes place (image.use + 1) first
  if image.use - 4 < next then none
  let (finish, next, gap) ← joinNext? image sheet.bytes (place + size) next
  let before := written + pairAt sheet.bytes (written + 2)
  if first < written ∧ place ≤ before + 3 then
    if place < before then none
    let gap := gap + (place - before)
    if sheet.lost < gap then none
    let freed ← (sheet.withLost (sheet.lost - gap)).enterFreed? written first written finish next
    return { freed with room := sheet.room + size }
  else
    if sheet.lost < gap then none
    let freed ← (sheet.withLost (sheet.lost - gap)).enterFreed? written first place finish next
    return { freed with room := sheet.room + size }

/-- Takes an entry of a given size away. -/
def drop? (image : Image) (sheet : Sheet) (k size : Nat) : Option Sheet := do
  if image.use < sheet.writtenPlace k + size then none
  let freed ← sheet.free? image (sheet.writtenPlace k) size
  if sheet.count = 1 then
    let bytes := overwrite freed.bytes (sheet.start + 1) [0, 0, 0, 0]
    let bare := ((freed.withBytes bytes).withLost 0).withPair (sheet.start + 5) image.use
    return { bare with count := 0, room := image.use - sheet.listStart }
  else
    let list := freed.listed (k + 1) sheet.count
    let moved := freed.withBytes (putBlock freed.bytes (sheet.listStart + 2 * k) list)
    return { moved.withCount (sheet.count - 1) with room := freed.room + 2 }

end Freeing

section Packing

/-- The places of the entries when those in front of some parts move up by the sizes of these
parts. -/
def shifted (sheet : Sheet) (first second size further : Nat) : Sheet :=
  (List.range sheet.count).foldl (fun sheet k =>
    let written := sheet.listStart + 2 * k
    let place := pairAt sheet.bytes written
    if place < first then sheet.withPair written (place + size)
    else if place < second then sheet.withPair written (place + further)
    else sheet) sheet

/-- Moves entries together where at most two parts have become free: where the content starts
then. -/
def slide? (image : Image) (sheet : Sheet) : Option (Option (Nat × Sheet)) := do
  let first := sheet.firstFreed
  if first = 0 then return none
  if image.use - 4 < first then none
  let second := pairAt sheet.bytes first
  if image.use - 4 < second then none
  if second ≠ 0 ∧ pairAt sheet.bytes second ≠ 0 then return none
  let size := pairAt sheet.bytes (first + 2)
  let top := sheet.contentStart
  if first ≤ top then none
  if second = 0 then
    if image.use < first + size then none
    let moved := putBlock sheet.bytes (top + size) (sheet.bytes.extract top first)
    return some (top + size, (sheet.withBytes moved).shifted first 0 size 0)
  else
    let further := pairAt sheet.bytes (second + 2)
    if second < first + size ∨ image.use < second + further then none
    let between := sheet.bytes.extract (first + size) second
    let moved := putBlock sheet.bytes (first + size + further) between
    let size := size + further
    let moved := putBlock moved (top + size) (moved.extract top first)
    return some (top + size, (sheet.withBytes moved).shifted first second size further)

/-- Puts the entries at the end of the page, one in front of the other: where the content starts
then. -/
def stack? (image : Image) (sheet : Sheet) : Option (Nat × Sheet) := do
  let least := sheet.contentStart
  let (start, stacked) ← (List.range sheet.count).foldlM (fun (start, stacked) k => do
    let written := sheet.listStart + 2 * k
    let place := pairAt sheet.bytes written
    if image.use - 4 < place then none
    let size := image.entrySize sheet.toPage sheet.bytes place
    if start < least + size ∨ image.use < place + size then none
    let block := sheet.bytes.extract place (place + size)
    let moved := putBlock stacked.bytes (start - size) block
    return (start - size, (stacked.withBytes moved).withPair written (start - size)))
    (image.use, sheet)
  return (start, stacked.withLost 0)

/-- Moves the entries together, if at most `most` bytes are lost in the quick way. -/
def pack? (image : Image) (sheet : Sheet) (most? : Option Nat) : Option Sheet := do
  let isQuick := most?.any (fun most => sheet.lost ≤ most)
  let slid? ← if isQuick then sheet.slide? image else some none
  let (start, packed) ←
    match slid? with
    | some slid => some slid
    | none => sheet.stack? image
  let finish := sheet.listStart + 2 * sheet.count
  if packed.lost + start ≠ sheet.room + finish then none
  let bytes := putBlock packed.bytes finish (zeros (start - finish))
  return ((packed.withBytes bytes).withPair (sheet.start + 5) start).withPair (sheet.start + 1) 0

end Packing

section Putting

/-- Looks for a part that has become free and has room for some bytes; `written` says where its
place is written. -/
def slot? (image : Image) (sheet : Sheet) (size : Nat) :
    (fuel written : Nat) → Option (Option (Nat × Sheet))
  | 0, _ => none
  | fuel + 1, written =>
      let place := pairAt sheet.bytes written
      if image.use < place + size then if image.use - 4 < place then none else some none
      else
        let there := pairAt sheet.bytes (place + 2)
        if there < size then
          let next := pairAt sheet.bytes place
          if place < next then slot? image sheet size fuel place
          else if next = 0 then some none
          else none
        else
          let left := there - size
          if left < 4 then
            if 57 < sheet.lost then some none
            else
              some (some (place,
                (sheet.withPair written (pairAt sheet.bytes place)).withLost (sheet.lost + left)))
          else if image.use < left + place + size then none
          else some (some (place + left, sheet.withPair (place + 2) left))

/-- Makes room for some bytes: their place. -/
def allot? (image : Image) (sheet : Sheet) (size : Nat) : Option (Nat × Sheet) := do
  let gap := sheet.listStart + 2 * sheet.count
  let top := sheet.contentStart
  if image.use < top then none
  let top ← if gap ≤ top then some top else if top = 0 ∧ image.use = 65536 then some 65536 else none
  let slot? ←
    if sheet.firstFreed ≠ 0 ∧ gap + 2 ≤ top then
      slot? image sheet size (image.use + 1) (sheet.start + 1)
    else some none
  match slot? with
  | some (place, sheet) => if place ≤ gap then none else some (place, sheet)
  | none =>
      let (top, sheet) ←
        if top < gap + 2 + size then do
          let packed ← sheet.pack? image (some (min 4 (sheet.room - (2 + size))))
          let start := packed.contentStart
          pure (if start = 0 then 65536 else start, packed)
        else some (top, sheet)
      some (top - size, sheet.withPair (sheet.start + 5) (top - size))

/-- Puts an entry on a sheet, or aside. -/
def put? (image : Image) (sheet : Sheet) (k : Nat) (entry : ByteArray) : Option Sheet := do
  if !sheet.excess.isEmpty || sheet.room < entry.size + 2 then
    return { sheet with excess := sheet.excess ++ [(k, entry)] }
  else
    let (place, allotted) ← sheet.allot? image entry.size
    let list := allotted.listed k sheet.count
    let bytes := putBlock allotted.bytes place entry
    let bytes := putBlock bytes (sheet.listStart + 2 * k + 2) list
    let written := (allotted.withBytes bytes).withPair (sheet.listStart + 2 * k) place
    return { written.withCount (sheet.count + 1) with room := sheet.room - (entry.size + 2) }

end Putting

end Sheet
end Likeness
