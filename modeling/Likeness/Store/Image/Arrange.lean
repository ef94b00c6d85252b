import Likeness.Store.Image.Sheet

/-!
# Arranging entries on a page

When neighbouring pages are balanced, each of them gets a run of the entries that are on all of
them.  `Sheet.arrange?` changes a page so that it has such a run: entries that leave free their
parts, and new ones take parts that have become free or stand in front of all others.  A page
on which that does not work is filled anew from its end.
-/

namespace Likeness

/-- An entry of pages that are balanced. -/
structure Loose where
  bytes : ByteArray
  /-- On which of the pages it stands, and at which place. -/
  home? : Option (Nat × Nat)

namespace Loose

/-- Whether a page ends within an entry. -/
def isCut (image : Image) (item : Loose) : Bool :=
  item.home?.any (fun (_, place) =>
    place < image.pageSize && image.pageSize < place + item.bytes.size)

/-- The place of an entry on one of the pages. -/
def placeOn? (self : Nat) (item : Loose) : Option Nat :=
  (item.home?.filter (fun home => home.1 == self)).map Prod.snd

/-- An entry with as many bytes, some of which may be behind the page. -/
def ofPage (self : Nat) (bytes : ByteArray) (place size : Nat) : Loose :=
  let there := bytes.extract place (place + size)
  ⟨there ++ Image.zeros (size - there.size), some (self, place)⟩

end Loose

/-- A run of entries: the first one, and the one behind the last. -/
structure Run where
  first : Nat
  finish : Nat

/-- A page on which entries are arranged: the places of its entries, and where its content
starts. -/
structure Arranged where
  sheet : Sheet
  places : List Nat
  top : Nat

namespace Sheet

open Image

section Freeing

/-- Joins a part with another one that ends where it starts, or starts where it ends. -/
def join? (start finish : Nat) : List (Nat × Nat) → Option (List (Nat × Nat))
  | [] => none
  | (first, last) :: parts =>
      if first = finish then some ((start, last) :: parts)
      else if last = start then some ((first, finish) :: parts)
      else (join? start finish parts).map ((first, last) :: ·)

/-- How many parts are freed at a time. -/
def partLimit : Nat := 10

/-- Frees parts.  One that cannot be freed stays. -/
def freeAll (image : Image) (parts : List (Nat × Nat)) (sheet : Sheet) : Sheet :=
  parts.foldl (fun sheet (start, finish) =>
    (sheet.free? image start (finish - start)).getD sheet) sheet

/-- Frees the parts of entries that are on a page, and counts them.  Nothing more is freed once
an entry goes beyond the page. -/
def freeRun (image : Image) (self : Nat) :
    List Loose → (count : Nat) → (parts : List (Nat × Nat)) → Sheet → Sheet × Nat
  | [], count, parts, sheet => (sheet.freeAll image parts, count)
  | item :: items, count, parts, sheet =>
      match item.placeOn? self with
      | none => freeRun image self items count parts sheet
      | some start =>
          if start < sheet.listStart ∨ image.use ≤ start then
            freeRun image self items count parts sheet
          else
            let finish := start + item.bytes.size
            match join? start finish parts with
            | some parts => freeRun image self items (count + 1) parts sheet
            | none =>
                if image.use < finish then (sheet, 0)
                else if parts.length < partLimit then
                  freeRun image self items (count + 1) (parts ++ [(start, finish)]) sheet
                else
                  freeRun image self items (count + 1) [(start, finish)]
                    (sheet.freeAll image parts)

end Freeing

section Placing

/-- Puts an entry on a page whose list of places ends at a place: where it stands. -/
def place? (image : Image) (begin : Nat) (item : Loose) (arranged : Arranged) :
    Option (Nat × Arranged) := do
  let sheet := arranged.sheet
  let slot? :=
    if sheet.firstFreed = 0 then none
    else (sheet.slot? image item.bytes.size (image.use + 1) (sheet.start + 1)).join
  let (place, sheet, top) ←
    match slot? with
    | some (place, sheet) => some (place, sheet, arranged.top)
    | none =>
        if arranged.top < begin + item.bytes.size then none
        else
          let place := arranged.top - item.bytes.size
          some (place, sheet, place)
  if item.isCut image then none
  return (place, ⟨sheet.withBytes (putBlock sheet.bytes place item.bytes), arranged.places, top⟩)

/-- Puts entries on a page, from a place in the list of places on. -/
def placeRun? (image : Image) (begin : Nat) :
    List Loose → (k : Nat) → Arranged → Option Arranged
  | [], _, arranged => some arranged
  | item :: items, k, arranged => do
      let (place, arranged) ← place? image begin item arranged
      placeRun? image begin items (k + 1)
        { arranged with places := arranged.places.insertIdx k place }

/-- Puts those entries on a page that had found no room on it. -/
def placeExcess? (image : Image) (begin : Nat) (items : Array Loose) (run : Run)
    (before : Nat) : List (Nat × ByteArray) → Arranged → Option Arranged
  | [], arranged => some arranged
  | (k, _) :: excess, arranged => do
      let wanted := before + k
      let arranged ←
        if run.first ≤ wanted ∧ wanted < run.finish then
          placeRun? image begin (items[wanted]?).toList (wanted - run.first) arranged
        else some arranged
      placeExcess? image begin items run before excess arranged

end Placing

section Arranging

/-- The bytes of a page with a list of places, and with content from a place on. -/
def written (sheet : Sheet) (places : List Nat) (top : Nat) : Sheet :=
  let list : ByteArray := ⟨(places.flatMap (fun place => bytesOf 2 (Int.ofNat place))).toArray⟩
  let bytes := putBlock sheet.bytes sheet.listStart list
  { ((sheet.withBytes bytes).withCount places.length).withPair (sheet.start + 5) top with
    excess := [] }

/-- Changes a page that has the entries of a run so that it has those of another one. -/
def edited? (image : Image) (self : Nat) (sheet : Sheet) (items : Array Loose)
    (before : Nat) (run : Run) : Option Sheet := do
  let behind := before + sheet.count + sheet.excess.length
  let places := (List.range sheet.count).map sheet.writtenPlace
  let part := fun (first finish : Nat) => (items.extract first finish).toList
  let (lighter, gone) :=
    if before < run.first then sheet.freeRun image self (part before run.first) 0 []
    else (sheet, 0)
  let places := places.drop gone
  let (lighter, gone) :=
    if run.finish < behind then lighter.freeRun image self (part run.finish behind) 0 []
    else (lighter, 0)
  let places := places.take (places.length - gone)
  let begin := sheet.listStart + 2 * (run.finish - run.first)
  let top := lighter.contentStart
  if top < begin ∨ image.pageSize < top then none
  let added := min run.finish before
  let arranged ← placeRun? image begin (part run.first added) 0 ⟨lighter, places, top⟩
  let arranged ← placeExcess? image begin items run before sheet.excess arranged
  let count := arranged.places.length
  let arranged ←
    placeRun? image begin (part (run.first + count) run.finish) count arranged
  return arranged.sheet.written arranged.places arranged.top

/-- Fills a page anew with some entries, the first one at the end. -/
def filled? (image : Image) (self : Nat) (sheet : Sheet) (items : List Loose) :
    Option Sheet := do
  let least := if image.use < sheet.contentStart then 0 else sheet.contentStart
  let (places, bytes) ← items.foldlM (fun (places, bytes) item => do
    let top := (places.getLast?).getD image.use
    let isHere := (item.placeOn? self).any (fun place => least ≤ place ∧ place < image.use)
    let isBeyond := isHere && (item.placeOn? self).any (fun place =>
      image.use < place + item.bytes.size)
    if isBeyond || (!isHere && item.isCut image) then none
    if top < sheet.listStart + 2 * (places.length + 1) + item.bytes.size then none
    let place := top - item.bytes.size
    return (places ++ [place], putBlock bytes place item.bytes)) (([] : List Nat), sheet.bytes)
  let top := (places.getLast?).getD image.use
  let bare := ((sheet.withBytes bytes).withPair (sheet.start + 1) 0).withLost 0
  return bare.written places top

/-- Changes a page that has the entries of a run so that it has those of another one, or fills
it anew. -/
def arrange? (image : Image) (self : Nat) (sheet : Sheet) (items : Array Loose)
    (before : Nat) (run : Run) : Option Sheet :=
  match sheet.edited? image self items before run with
  | some sheet => some sheet
  | none =>
      if run.finish ≤ run.first then none
      else sheet.filled? image self (items.extract run.first run.finish).toList

end Arranging

end Sheet
end Likeness
