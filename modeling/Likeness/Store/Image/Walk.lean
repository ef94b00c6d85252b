import Likeness.Store.Image.Entry

/-!
# Walks through trees of pages

`Image.walk` walks through a tree from left to right: the entries it holds, and the pages it is
made of.  The walk ends early if the tree is deeper than a limit, so that a page below itself is
noticed, if a page below the first one has no entries, or if a page is missing or of another
kind.
-/

namespace Likeness
namespace Image

/-- What a walk comes across: the entries in order, and the numbers of the pages. -/
structure Harvest where
  entries : Array PageEntry
  pages : Array Nat

/-- A walk, which may end early. -/
abbrev Walking (α : Type) : Type := OptionT (StateM Harvest) α

/-- The deepest tree that is read. -/
def depthLimit : Nat := 20

/-- Comes to a page. -/
def visit (number : Nat) : Walking Unit :=
  modify (fun taken => { taken with pages := taken.pages.push number })

/-- Comes to an entry. -/
def take (entry : PageEntry) : Walking Unit :=
  modify (fun taken => { taken with entries := taken.entries.push entry })

def root? (image : Image) (isTable : Bool) (number : Nat) : Option Page := do
  let page ← Page.read? image number
  if page.isTable != isTable || (page.count == 0 && !page.isLeaf && number != 1) then none
  return page

/-- A page below another one. -/
def child? (image : Image) (isTable : Bool) (number : Nat) : Option Page := do
  let page ← Page.read? image number
  if page.isTable != isTable || page.count == 0 then none
  return page

/-- Walks through the tree below a page that has been looked for. -/
def walkBelow (image : Image) (isTable : Bool) :
    (depth : Nat) → (number : Nat) → Option Page → Walking Unit
  | _, _, none | 0, _, _ => failure
  | depth + 1, number, some page => do
      visit number
      let below := fun k =>
        let child := page.childOf k
        walkBelow image isTable depth child (image.child? isTable child)
      (List.range page.count).forM (fun k => do
        if !page.isLeaf then below k
        if page.isLeaf || !isTable then take (page.entry image k))
      if !page.isLeaf then below page.count

/-- Walks through a tree: what the walk comes across, and whether it comes to the end. -/
def walk (image : Image) (isTable : Bool) (root : Nat) : Harvest × Bool :=
  let (end?, harvest) :=
    (walkBelow image isTable depthLimit root (image.root? isTable root)).run.run ⟨#[], #[]⟩
  (harvest, end?.isSome)

/-- The entries of a tree and its pages, if the walk through it comes to the end. -/
def entries? (image : Image) (isTable : Bool) (root : Nat) : Option Harvest :=
  let (harvest, isWhole) := image.walk isTable root
  if isWhole then some harvest else none

end Image
end Likeness
