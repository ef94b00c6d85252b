import Likeness.Store.Image.Arrange
import Likeness.Store.Image.Draft
import Likeness.Store.Image.Sharing

/-!
# Balanced trees

An entry that has found no room on its page makes the tree be balanced.  A page shares its
entries with up to two neighbours, and with new pages if these are not enough; what stands
between two of them goes up to the page above, which is balanced next.  A row behind all others
starts a page of its own.  A root keeps its place: when it is full, all of its entries go down
to a new page below it, and when it has only one page below it, they come up again.

On the way up, a page that is mostly free is balanced as well.
-/

-- sums start from the zero of the core library
attribute [local instance (high)] Zero.ofOfNat0

namespace Likeness
namespace Draft

open Image

section Sheets

/-- A page without entries. -/
def blank (image : Image) (number : Nat) (bytes : ByteArray) (isTable isLeaf : Bool) : Sheet :=
  let start := Page.startOf number
  let kind := if isLeaf then if isTable then 13 else 10 else if isTable then 5 else 2
  let head := kind :: [0, 0, 0, 0].map Nat.toUInt8 ++ bytesOf 2 image.use ++ [0]
  let page : Page := ⟨overwrite bytes start head, start, isTable, isLeaf, 0⟩
  ⟨page, number, image.use - page.freeStart, []⟩

/-- Puts a root without entries on a new page. -/
def newRoot (isTable : Bool) : Drafting Nat := do
  let number ← take 1
  keep (blank (← current) number (← page number) isTable true)
  return number

/-- The content of a page on another one, which has its own place in front of the tree. -/
def moved (image : Image) (sheet : Sheet) (number : Nat) (bytes : ByteArray) :
    Option Sheet := do
  let start := Page.startOf number
  let top := sheet.contentStart
  let bytes := putBlock bytes top (sheet.bytes.extract top image.use)
  let front := sheet.bytes.extract sheet.start (sheet.listStart + 2 * sheet.count)
  let page : Page :=
    ⟨putBlock bytes start front, start, sheet.isTable, sheet.isLeaf, sheet.count⟩
  return ⟨page, number, ← page.room? image.use, sheet.excess⟩

/-- A sheet with another page behind the last entry. -/
def withLast (sheet : Sheet) (number : Nat) : Sheet :=
  sheet.withBytes (setQuad sheet.bytes (sheet.start + 8) number)

end Sheets

section Deeper

/-- Puts the entries of a root on a new page below it: the root, and that page. -/
def deepen (root : Sheet) : Drafting (Sheet × Sheet) := do
  let number ← take root.number
  let image ← current
  let child ← need (moved image root number (← page number))
  let bare := blank image root.number root.bytes root.isTable false
  return (withLast bare number, child)

end Deeper

section Quick

/-- Whether a row stands alone behind all others of a table. -/
def isBehind (parent page : Sheet) (k : Nat) : Bool :=
  page.isTable && page.isLeaf && parent.number != 1 && parent.count == k
    && page.excess.map Prod.fst == [page.count]

/-- Puts the row behind all others on a page of its own: the page above. -/
def startPage (parent page : Sheet) : Drafting Sheet := do
  let image ← current
  if page.count = 0 then failure
  let number ← take 0
  let bare := blank image number (← Draft.page number) true true
  let items := page.excess.map (fun (_, bytes) => Loose.mk bytes none)
  let filled ← need (bare.filled? image 0 items)
  let size := (items.map (fun item => item.bytes.size)).sum
  keep { filled with room := bare.room - 2 - size }
  keep { page with excess := [] }
  let place := (sizeAt page.bytes (page.placeOf (page.count - 1))).2
  let divider := (bytesOf 4 page.number).toByteArray
    ++ page.bytes.extract place (longAt page.bytes place).2
  return withLast (← need (parent.put? image parent.count divider)) number

end Quick

section Neighbours

/-- Pages that are balanced, and the entries between them. -/
structure Family where
  /-- The page above, without the entries between them. -/
  parent : Sheet
  /-- The place of the first entry between them. -/
  first : Nat
  /-- Where the page above names the last of them. -/
  lastPlace : Nat
  pages : List Sheet
  dividers : List ByteArray

/-- The first entry between neighbours of the page in front of an entry, and how many there
are. -/
def span (count k : Nat) : Nat × Nat :=
  if count < 2 then (0, count)
  else (if k = 0 then 0 else if k = count then count - 2 else k - 1, 2)

/-- Takes the entries between neighbours off the page above, the last one first. -/
def takeDividers (image : Image) (first : Nat) : (count : Nat) → Sheet →
    Option (Sheet × List ByteArray)
  | 0, parent => some (parent, [])
  | count + 1, parent => do
      let size := parent.sizeOf image (first + count)
      let item := Loose.ofPage 0 parent.bytes (parent.placeOf (first + count)) size
      let (parent, items) ← takeDividers image first count
        (← parent.drop? image (first + count) size)
      return (parent, items ++ [item.bytes])

/-- A page with its neighbours. -/
def family (parent page : Sheet) (k : Nat) : Drafting Family := do
  let image ← current
  let (first, count) := span parent.count k
  let lastPlace :=
    if first + count = parent.count then parent.start + 8 else parent.placeOf (first + count)
  let numbers := (List.range (count + 1)).map (fun i => parent.childOf (first + i))
  let pages ← numbers.mapM (fun number =>
    if number = page.number then pure page else sheet number)
  let (bare, dividers) ← need (takeDividers image first count parent)
  return ⟨bare, first, lastPlace, pages, dividers⟩

/-- The entries of one of the pages, with those that have found no room. -/
def ownItems (image : Image) (self : Nat) (page : Sheet) : List Loose :=
  let there := (List.range page.count).map (fun k =>
    Loose.ofPage self page.bytes (page.placeOf k) (page.sizeOf image k))
  match page.excess with
  | [] => there
  | (k, _) :: _ =>
      there.take k ++ page.excess.map (fun (_, bytes) => Loose.mk bytes none) ++ there.drop k

/-- What becomes of an entry between two pages when these and it are put in a row: between
leaves it loses the page in front of it, and otherwise that is the last one of the page before
it. -/
def rowItem (page : Sheet) (divider : ByteArray) : Loose :=
  let bytes := divider.extract 4 divider.size
  if page.isLeaf then ⟨bytes ++ zeros (4 - bytes.size), none⟩
  else ⟨page.bytes.extract 8 12 ++ bytes, none⟩

/-- All entries of the pages, and the place behind those of each page. -/
def rowOf (image : Image) (hasDividers : Bool) : (self : Nat) → List Sheet →
    List ByteArray → List Loose → List Loose × List Nat
  | _, [], _, row => (row, [])
  | self, page :: pages, dividers, row =>
      let row := row ++ ownItems image self page
      let between :=
        if hasDividers then (dividers.head?.map (rowItem page)).toList else []
      let (all, ends) :=
        rowOf image hasDividers (self + 1) pages (dividers.drop 1) (row ++ between)
      (all, row.length :: ends)

/-- The entry of the page above for the place between a page and the next one. -/
def dividerFor (image : Image) (parent page : Sheet) (row : Array Loose) (place : Nat) :
    ByteArray :=
  let front := (bytesOf 4 page.number).toByteArray
  if page.isTable && page.isLeaf then
    let bytes := ((row[place - 1]?).map Loose.bytes).getD .empty
    let start := (sizeAt bytes 0).2
    front ++ (longBytes (longAt bytes start).1).toByteArray
  else
    let bytes := ((row[place]?).map Loose.bytes).getD .empty
    if !page.isLeaf then front ++ bytes.extract 4 bytes.size
    else
      let whole := front ++ bytes
      if bytes.size = 4 then whole.extract 0 (image.entrySize parent.toPage whole 0) else whole

/-- Pages for the shares of a family: its own pages, and new ones behind them. -/
def pagesFor (family : Family) (count : Nat) : Drafting (List Sheet) := do
  let kept := family.pages.take count
  let image ← current
  let isTable := family.pages.any (fun page => page.isTable)
  let isLeaf := family.pages.any (fun page => page.isLeaf)
  let added ← (List.range (count - kept.length)).foldlM (fun added _ => do
    let before := ((added ++ family.pages.take 1).head?.map Sheet.number).getD 0
    let number ← take before
    return blank image number (← page number) isTable isLeaf :: added) ([] : List Sheet)
  return kept ++ added.reverse

/-- Pages under their own numbers in ascending order. -/
def renumbered (pages : List Sheet) : List Sheet :=
  let numbers := (pages.map Sheet.number).mergeSort (· ≤ ·)
  List.zipWith (fun page number => { page with number }) pages numbers

/-- Whether pages are all different, and none of them is above the others. -/
def areApart (above : List Nat) (pages : List Sheet) : Bool :=
  let numbers := pages.map Sheet.number
  numbers.all (fun number => number != 1 && !above.contains number)
    && numbers.eraseDups.length == numbers.length

/-- The pages for the shares, with the entries that they had before and the last pages below
them. -/
def preparePages (family : Family) (row : Array Loose) (sharing : Sharing) :
    Drafting (List Sheet) := do
  let pages := renumbered (← pagesFor family sharing.pages)
  let last := ((family.pages.getLast?).map (fun page => page.last)).getD 0
  return pages.zipIdx.map (fun (page, i) =>
    if page.isLeaf then page
    else if i + 1 < pages.length then
      withLast page (quadAt (((row[sharing.endOf i]?).map Loose.bytes).getD .empty) 0)
    else if pages.length = family.pages.length then page
    else withLast page last)

/-- The page above with the entries between the shares. -/
def divide (family : Family) (row : Array Loose) (sharing : Sharing) (pages : List Sheet) :
    Drafting Sheet := do
  let image ← current
  let last := ((pages.getLast?).map Sheet.number).getD 0
  let named := family.parent.withBytes (setQuad family.parent.bytes family.lastPlace last)
  pages.dropLast.zipIdx.foldlM (fun parent (page, i) => do
    let place := sharing.endOf i
    if !(page.isTable && page.isLeaf) && (row[place]?).any (Loose.isCut image) then failure
    need (parent.put? image (family.first + i) (dividerFor image parent page row place))) named

/-- Puts the shares on their pages. -/
def arrangePages (row : Array Loose) (load : Sharing.Load) (sharing : Sharing)
    (ends : List Nat) (pages : List Sheet) : Drafting (List Sheet) := do
  let image ← current
  let skip := if load.hasDividers then 1 else 0
  pages.zipIdx.mapM (fun (page, i) => do
    let before := match i with
      | 0 => 0
      | i + 1 => ((ends.take (ends.length - 1))[i]?.map (· + skip)).getD row.size
    let first := if i = 0 then 0 else sharing.startOf i + skip
    let arranged ← need (page.arrange? image i row before ⟨first, sharing.endOf i⟩)
    return { arranged with room := ((load.space : Int) - sharing.usedOn i).toNat })

/-- Brings the entries of the only page below a root up to it. -/
def shallow (root child : Sheet) : Drafting Sheet := do
  let image ← current
  let packed ← need (child.pack? image none)
  let risen ← need (moved image packed root.number root.bytes)
  release child.number
  return risen

/-- Balances a page with its neighbours: the page above. -/
def balanceFamily (parent page : Sheet) (k : Nat) (above : List Nat) : Drafting Sheet := do
  let family ← family parent page k
  if !areApart above family.pages then failure
  if family.pages.any (fun other => other.isTable != page.isTable || other.isLeaf != page.isLeaf)
    then failure
  family.pages.forM (fun page => modify (fun draft =>
    { draft with held := page.number :: draft.held }))
  let image ← current
  let hasDividers := !(page.isTable && page.isLeaf)
  let (row, ends) := rowOf image hasDividers 0 family.pages family.dividers []
  let row := row.toArray
  let load : Sharing.Load :=
    ⟨row.map (fun item => item.bytes.size),
      image.use - (if page.isLeaf then 8 else 12), hasDividers⟩
  let parts := family.pages.map (fun page =>
    let surplus := (page.excess.map (fun (_, bytes) => bytes.size + 2)).sum
    ((load.space : Int) - page.room + surplus))
  let sharing ← need (Sharing.settle? load (parts.zip ends))
  let pages ← preparePages family row sharing
  let parent ← divide family row sharing pages
  let pages ← arrangePages row load sharing ends pages
  let first := pages.head?
  let isOnly := above.length = 1 && parent.count = 0
    && first.any (fun first => parent.start ≤ first.room)
  let parent ←
    match first, isOnly with
    | some first, true => shallow parent first
    | _, _ => do
        pages.forM keep
        pure parent
  (family.pages.drop pages.length).forM (fun page => release page.number)
  return parent

end Neighbours

section Balance

/-- Balances a page below another one, at a place: the page above. -/
def balanceChild (parent page : Sheet) (k : Nat) (above : List Nat) : Drafting Sheet :=
  if isBehind parent page k then startPage parent page else balanceFamily parent page k above

/-- Balances a tree from a page upwards.  The pages above it are given with the places of the
pages that lead to it. -/
def balance : List (Nat × Nat) → Sheet → Drafting Unit
  | [], page => do
      if page.excess.isEmpty then keep page
      else
        let (root, child) ← deepen page
        let root ← balanceChild root child 0 [root.number]
        if root.excess.isEmpty then keep root else failure
  | (number, k) :: above, page => do
      if page.excess.isEmpty ∧ page.room * 3 ≤ (← current).use * 2 then keep page
      else
        if page.number = 1 ∨ ((number, k) :: above).any (fun step => step.1 == page.number) then
          failure
        let parent ← sheet number
        balance above
          (← balanceChild parent page k (number :: above.map Prod.fst))

end Balance

end Draft
end Likeness
