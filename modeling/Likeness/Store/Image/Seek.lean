import Likeness.Store.Image.Packed
import Likeness.Store.Image.Walk

/-!
# Ways through trees of pages

A way leads from the root of a tree down to a place on a page: in front of an entry, or behind
the last one.  A row is looked for by its number and a key by its cells, by halving the entries
of each page on the way.

A way that ends on a page or goes on from one entry to the next looks at no other pages, so that
a tree may be legible in parts.
-/

namespace Likeness

/-- A place on a page, and the places on the pages above it that lead there, the nearest
first. -/
structure Way where
  page : Nat
  place : Nat
  above : List (Nat × Nat)
deriving DecidableEq, Repr

namespace Way

open Image

section Searching

/-- Looks for an entry among those from `lower` on up to `upper`, by halving: its place, or the
place where it would be, and whether it is there. -/
def halve (compare? : Nat → Option Ordering) : (fuel lower upper : Nat) → Option (Nat × Bool)
  | 0, lower, _ => some (lower, false)
  | fuel + 1, lower, upper =>
      if upper ≤ lower then some (lower, false)
      else do
        let middle := (lower + upper - 1) / 2
        match ← compare? middle with
        | .lt => halve compare? fuel (middle + 1) upper
        | .gt => halve compare? fuel lower middle
        | .eq => return (middle, true)

def rowPlace? (wanted : Int) (page : Page) : Option (Nat × Bool) :=
  halve (fun k => some (compare (page.numberOf k) wanted)) (page.count + 1) 0 page.count

/-- The bytes of a key with which others are compared.  One that does not fit on its page has to
be read as a whole. -/
def keyBytes? (image : Image) (entry : PageEntry) : Option ByteArray :=
  if image.localSize false entry.size = entry.size then some entry.there
  else entry.bytes? image

/-- The place of a key on a page; `rest` is its order to keys that start with it. -/
def keyPlace? (image : Image) (key : List (KeyPart × Cell)) (rest : Ordering) (page : Page) :
    Option (Nat × Bool) :=
  halve (fun k => do Packed.compare? image (← keyBytes? image (page.entry image k)) key rest)
    (page.count + 1) 0 page.count

/-- Goes down from a page.  A row is on a leaf, and a key may be on any page. -/
def descend (image : Image) (isTable : Bool) (choose? : Page → Option (Nat × Bool)) :
    (depth : Nat) → (number : Nat) → Option Page → (above : List (Nat × Nat)) →
      Option (Way × Bool)
  | _, _, none, _ | 0, _, _, _ => none
  | depth + 1, number, some page, above => do
      let (place, isThere) ← choose? page
      if page.isLeaf || (isThere && !isTable) then return (⟨number, place, above⟩, isThere)
      let child := page.childOf place
      descend image isTable choose? depth child (image.child? isTable child)
        ((number, place) :: above)

/-- The way to a row, or to where it would be, and whether it is there. -/
def toRow? (image : Image) (root : Nat) (wanted : Int) : Option (Way × Bool) :=
  descend image true (rowPlace? wanted) depthLimit root (image.root? true root) []

/-- The way to a key, or to where it would be, and whether it is there. -/
def toKey? (image : Image) (root : Nat) (key : List (KeyPart × Cell)) (rest : Ordering) :
    Option (Way × Bool) :=
  descend image false (keyPlace? image key rest) depthLimit root (image.root? false root) []

/-- The way behind the last entry. -/
def toEnd? (image : Image) (isTable : Bool) (root : Nat) : Option Way :=
  (descend image isTable (fun page => some (page.count, false)) depthLimit root
    (image.root? isTable root) []).map Prod.fst

end Searching

section Keys

def page? (image : Image) (way : Way) : Option Page :=
  Page.read? image way.page

/-- Goes up as long as a way is behind the last entry of its page.  There may be no entry
behind it. -/
def climb? (image : Image) : List (Nat × Nat) → Option (Option Way)
  | [] => some none
  | (number, place) :: above => do
      let page ← Page.read? image number
      if place < page.count then return some ⟨number, place, above⟩ else climb? image above

/-- The way to the first key that is not in front of a way, if there is one. -/
def settle? (image : Image) (way : Way) : Option (Option Way) := do
  let page ← way.page? image
  if way.place < page.count then return some way else climb? image way.above

/-- The way to the next key, if there is one. -/
def next? (image : Image) (way : Way) : Option (Option Way) := do
  let page ← way.page? image
  let place := way.place + 1
  if page.isLeaf then settle? image { way with place }
  else
    let child := page.childOf place
    let (way, _) ← descend image false (fun _ => some (0, false))
      (depthLimit - 1 - way.above.length) child (image.child? false child)
      ((way.page, place) :: way.above)
    return some way

def key? (image : Image) (way : Way) : Option PageEntry := do
  let page ← way.page? image
  return page.entry image way.place

end Keys

end Way
end Likeness
