/-!
# Sharing entries among pages

Some entries in a row are to be shared among neighbouring pages.  At first each page has a part
of them.  A page that has too many gives the last ones to the next page, and one that has room
takes the first ones from it; then, from the right to the left, a page takes entries from the
one before as long as that has more.

Between two pages of keys stands an entry that is on neither of them.
-/

namespace Likeness

/-- How entries are shared among pages. -/
structure Sharing where
  /-- Number of bytes that are in use on each page. -/
  used : Array Int
  /-- The place of the first entry behind each page. -/
  ends : Array Nat
  /-- Number of pages. -/
  pages : Nat

namespace Sharing

def mostPages : Nat := 5

/-- What is shared: the sizes of the entries, how many bytes of a page can be in use, and whether
entries stand between the pages. -/
structure Load where
  sizes : Array Nat
  space : Nat
  hasDividers : Bool

/-- How many bytes an entry takes up, with its place.  There is nothing behind the last one. -/
def Load.cost (load : Load) (k : Nat) : Int :=
  match load.sizes[k]? with
  | some size => size + 2
  | none => 0

/-- The bytes in use on a page. -/
def usedOn (sharing : Sharing) (i : Nat) : Int :=
  sharing.used.getD i 0

/-- The first entry behind a page. -/
def endOf (sharing : Sharing) (i : Nat) : Nat :=
  sharing.ends.getD i 0

/-- The first entry behind the page in front of a page. -/
def startOf (sharing : Sharing) (i : Nat) : Nat :=
  if i = 0 then 0 else sharing.endOf (i - 1)

/-- Moves the end of a page, and counts its bytes and those of the next page anew. -/
def move (sharing : Sharing) (i place : Nat) (used next : Int) : Sharing :=
  { sharing with
    used := (sharing.used.setIfInBounds i used).setIfInBounds (i + 1) next
    ends := sharing.ends.setIfInBounds i place }

/-- Adds an empty page behind a page, unless there is one. -/
def extend? (load : Load) (sharing : Sharing) (i : Nat) : Option Sharing :=
  if i + 1 < sharing.pages then some sharing
  else if mostPages < i + 2 then none
  else
    some ⟨sharing.used.setIfInBounds (i + 1) 0,
      sharing.ends.setIfInBounds (i + 1) load.sizes.size, i + 2⟩

/-- Gives the last entries of a page to the next one until the others fit. -/
def shrink? (load : Load) (i : Nat) : (fuel : Nat) → Sharing → Option Sharing
  | 0, sharing => some sharing
  | fuel + 1, sharing =>
      if sharing.usedOn i ≤ load.space then some sharing
      else do
        let sharing ← sharing.extend? load i
        let place := sharing.endOf i
        let given := if load.hasDividers then load.cost place else load.cost (place - 1)
        shrink? load i fuel (sharing.move i (place - 1)
          (sharing.usedOn i - load.cost (place - 1)) (sharing.usedOn (i + 1) + given))

/-- Takes the first entries of the next page as long as they fit. -/
def grow (load : Load) (i : Nat) : (fuel : Nat) → Sharing → Sharing
  | 0, sharing => sharing
  | fuel + 1, sharing =>
      let place := sharing.endOf i
      if load.sizes.size ≤ place || load.space < sharing.usedOn i + load.cost place then sharing
      else
        let taken := if load.hasDividers then load.cost (place + 1) else load.cost place
        grow load i fuel (sharing.move i (place + 1)
          (sharing.usedOn i + load.cost place) (sharing.usedOn (i + 1) - taken))

/-- Fills the pages from a page on, from the left to the right. -/
def fill? (load : Load) : (left i : Nat) → Sharing → Option Sharing
  | 0, _, sharing => some sharing
  | left + 1, i, sharing =>
      if sharing.pages ≤ i then some sharing
      else do
        let sharing ← sharing.shrink? load i (load.sizes.size + 1)
        let sharing := sharing.grow load i (load.sizes.size + 1)
        if load.sizes.size ≤ sharing.endOf i then some { sharing with pages := i + 1 }
        else if sharing.endOf i ≤ sharing.startOf i then none
        else fill? load left (i + 1) sharing

/-- Takes the last entries of the page before as long as that has more. -/
def level (load : Load) (i : Nat) : (fuel : Nat) → Sharing → Sharing
  | 0, sharing => sharing
  | fuel + 1, sharing =>
      let place := sharing.endOf (i - 1)
      if place = 0 then sharing
      else
        let given := load.cost (place - 1)
        let taken := if load.hasDividers then load.cost place else given
        let left := sharing.usedOn (i - 1)
        let right := sharing.usedOn i
        let slack : Int := if i + 1 = sharing.pages then 2 else 0
        if right ≠ 0 ∧ left - given + slack < right + taken then sharing
        else
          level load i fuel (sharing.move (i - 1) (place - 1) (left - given) (right + taken))

/-- Evens out the first pages, from the right to the left. -/
def even? (load : Load) : (i : Nat) → Sharing → Option Sharing
  | 0, sharing => some sharing
  | i + 1, sharing =>
      let sharing := sharing.level load (i + 1) (load.sizes.size + 1)
      if sharing.endOf i ≤ sharing.startOf i then none else even? load i sharing

/-- Shares entries among pages that have a part of them each: the bytes in use on each page, and
the first entry behind it. -/
def settle? (load : Load) (parts : List (Int × Nat)) : Option Sharing := do
  let spare := mostPages - parts.length
  let start : Sharing :=
    ⟨(parts.map Prod.fst ++ List.replicate spare 0).toArray,
      (parts.map Prod.snd ++ List.replicate spare 0).toArray, parts.length⟩
  let filled ← fill? load mostPages 0 start
  even? load (filled.pages - 1) filled

end Sharing
end Likeness
