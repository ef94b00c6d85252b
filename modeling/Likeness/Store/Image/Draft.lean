import Likeness.Store.Image.Sheet

/-!
# Images that are edited

A draft is an image of which pages are edited one by one.  The free bytes of a page are counted
when it is edited for the first time, and their number is kept from then on.

A page that is needed is taken from the list of free pages, or else stands behind the last one.
The first page says how many pages are free and where their list starts: each page of the list
names the next one and further free pages.  Pages that are in use at the moment cannot be taken.

Every step fails if the image turns out not to be well kept.
-/

namespace Likeness

/-- An image that is edited. -/
structure Draft where
  image : Image
  /-- The number of free bytes of pages that have been edited. -/
  rooms : List (Nat × Nat)
  /-- The pages that are in use. -/
  held : List Nat

/-- A step that edits. -/
abbrev Drafting (α : Type) : Type := StateT Draft Option α

namespace Draft

open Image

section Pages

/-- A step that cannot be taken in some cases. -/
def need {α : Type} (value? : Option α) : Drafting α :=
  StateT.lift value?

/-- The image. -/
def current : Drafting Image :=
  return (← get).image

def page (number : Nat) : Drafting ByteArray := do
  need ((← current).page? number)

/-- Puts a page in place.  What stands in front of the tree on the first page stays. -/
def setPage (number : Nat) (bytes : ByteArray) : Drafting Unit :=
  modify (fun draft => { draft with image := { draft.image with
    pages := draft.image.pages.modify (number - 1) (fun there =>
      putBlock bytes 0 (there.extract 0 (Page.startOf number))) } })

/-- Puts a number of four bytes on a page. -/
def writeQuad (number place value : Nat) : Drafting Unit :=
  modify (fun draft => { draft with image := { draft.image with
    pages := draft.image.pages.modify (number - 1) (fun page => setQuad page place value) } })

def sheet (number : Nat) : Drafting Sheet := do
  let draft ← get
  let page ← need (Page.read? draft.image number)
  match draft.rooms.lookup number with
  | some room => return ⟨page, number, room, []⟩
  | none => return ⟨page, number, ← need (page.room? draft.image.use), []⟩

/-- Forgets the number of free bytes of a page. -/
def forget (number : Nat) : Drafting Unit :=
  modify (fun draft => { draft with rooms := draft.rooms.filter (fun room => room.1 != number) })

/-- Keeps a sheet on which all entries have found room. -/
def keep (sheet : Sheet) : Drafting Unit := do
  setPage sheet.number sheet.bytes
  forget sheet.number
  modify (fun draft => { draft with rooms := (sheet.number, sheet.room) :: draft.rooms })

end Pages

section Taking

/-- Takes a page into use. -/
def hold (number : Nat) : Drafting Unit := do
  forget number
  modify (fun draft => { draft with held := number :: draft.held })

/-- How far apart two numbers of four bytes are. -/
def distance (a b : Nat) : Nat :=
  (Int.bmod ((a : Int) - b) (2 ^ 32)).natAbs

/-- The place of the first of some numbers that is nearest to another one. -/
def nearest (wanted : Nat) (numbers : List Nat) : Nat :=
  if wanted = 0 then 0
  else
    ((numbers.zipIdx.foldl (fun best? (number, k) =>
      match best? with
      | some (_, least) =>
          if distance number wanted < least then some (k, distance number wanted) else best?
      | none => some (k, distance number wanted)) none).map Prod.fst).getD 0

/-- Whether a page holds numbers that say how pages hang together.  A file has such pages if its
first page names a largest root. -/
def isMap (image : Image) (number : Nat) : Bool :=
  quadAt ((image.page? 1).getD .empty) 52 != 0 && (number - 2) % (image.use / 5 + 1) == 0

def addPage : Drafting Nat := do
  let image ← current
  let blank := zeros image.pageSize
  let pages := image.pages.push blank
  let pages := if isMap image pages.size then pages.push blank else pages
  modify (fun draft => { draft with image := { draft.image with pages } })
  hold pages.size
  return pages.size

/-- Takes a page off the list of free pages, the one nearest to another page first. -/
def takeFree (count wanted : Nat) : Drafting Nat := do
  let draft ← get
  let trunk := quadAt (← page 1) 32
  let list ← page trunk
  if draft.held.contains trunk then failure
  let listed := quadAt list 4
  if listed = 0 then
    writeQuad 1 36 (count - 1)
    writeQuad 1 32 (quadAt list 0)
    hold trunk
    return trunk
  else
    if draft.image.use / 4 - 2 < listed then failure
    let numbers := (List.range listed).map (fun k => quadAt list (8 + 4 * k))
    let k := nearest wanted numbers
    let number := numbers.getD k 0
    if number < 2 || draft.image.pages.size < number || draft.held.contains number
      || number = trunk then failure
    writeQuad 1 36 (count - 1)
    writeQuad trunk (8 + 4 * k) (numbers.getD (listed - 1) 0)
    writeQuad trunk 4 (listed - 1)
    hold number
    return number

/-- Takes a page into use that nothing needs. -/
def take (wanted : Nat) : Drafting Nat := do
  let count := quadAt (← page 1) 36
  if (← current).pages.size ≤ count then failure
  if count = 0 then addPage else takeFree count wanted

/-- Enters a page in the list of free pages. -/
def release (number : Nat) : Drafting Unit := do
  let image ← current
  if number < 2 || image.pages.size < number then failure
  forget number
  let first ← page 1
  let count := quadAt first 36
  writeQuad 1 36 (count + 1)
  let trunk := if count = 0 then 0 else quadAt first 32
  let listed ← if count = 0 then pure image.use else do pure (quadAt (← page trunk) 4)
  if count ≠ 0 ∧ image.use / 4 - 2 < listed then failure
  if listed < image.use / 4 - 8 then
    writeQuad trunk 4 (listed + 1)
    writeQuad trunk (8 + 4 * listed) number
  else
    writeQuad number 0 trunk
    writeQuad number 4 0
    writeQuad 1 32 number

end Taking

section Entries

/-- Spreads bytes over a chain of pages: the number of the first one.  Each page is taken near
the one before. -/
def spread : (fuel : Nat) → (before : Nat) → ByteArray → Drafting Nat
  | 0, _, _ => return 0
  | fuel + 1, before, bytes => do
      if bytes.isEmpty then return 0
      let number ← take before
      let room := (← current).use - 4
      let next ← spread fuel number (bytes.extract room bytes.size)
      let there ← page number
      setPage number (putBlock there 0 (⟨(bytesOf 4 next).toArray⟩ ++ bytes.extract 0 room))
      return number

/-- The bytes of an entry on its page, from its head and what it holds. -/
def entryBytes (isTable : Bool) (head : List UInt8) (bytes : ByteArray) : Drafting ByteArray := do
  let share := (← current).localSize isTable bytes.size
  let head : ByteArray := ⟨head.toArray⟩
  if share = bytes.size then
    let entry := head ++ bytes
    return entry ++ zeros (4 - entry.size)
  else
    let next ← spread bytes.size 0 (bytes.extract share bytes.size)
    return head ++ bytes.extract 0 share ++ ⟨(bytesOf 4 next).toArray⟩

def rowEntry (number : Int) (bytes : ByteArray) : Drafting ByteArray :=
  entryBytes true (longBytes bytes.size ++ longBytes (number % 2 ^ 64).toNat) bytes

def keyEntry (bytes : ByteArray) : Drafting ByteArray :=
  entryBytes false (longBytes bytes.size) bytes

end Entries

end Draft
end Likeness
