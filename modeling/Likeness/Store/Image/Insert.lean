import Likeness.Store.Image.Balance
import Likeness.Store.Image.Seek

/-!
# Adding entries to trees

A row is added to a table under a number of its own, or under the one behind the last, and a key
is added where it belongs.  A row can be replaced by another one with the same number.
-/

namespace Likeness
namespace Draft

open Image

section Entries

/-- Goes to a place: only the pages on the way there are in use. -/
def goTo (way : Way) : Drafting Unit :=
  modify (fun draft => { draft with held := 1 :: way.page :: way.above.map Prod.fst })

/-- Keeps the page of a way, or balances the tree if an entry has found no room on it. -/
def finish (way : Way) (page : Sheet) : Drafting Unit :=
  if page.excess.isEmpty then keep page else balance way.above page

def putEntry (way : Way) (make : Drafting ByteArray) : Drafting Unit := do
  goTo way
  let entry ← make
  let page ← sheet way.page
  finish way (← need (page.put? (← current) way.place entry))

/-- Puts an entry in the place of another one. -/
def replaceEntry (way : Way) (make : Drafting ByteArray) : Drafting Unit := do
  goTo way
  let entry ← make
  let page ← sheet way.page
  let image ← current
  let size := page.sizeOf image way.place
  if size = entry.size then
    keep (page.withBytes (putBlock page.bytes (page.placeOf way.place) entry))
  else
    let page ← need (page.drop? image way.place size)
    finish way (← need (page.put? image way.place entry))

end Entries

section Rows

/-- The largest number of a row. -/
def lastNumber : Int := 2 ^ 63 - 1

/-- A number under which a table has no row, if the last number is taken. -/
def spareNumber (image : Image) (root : Nat) : Option Int :=
  ((List.range (image.pages.size * image.pageSize)).map (fun k => Int.ofNat (k + 1))).find?
    (fun number => (Way.toRow? image root number).all (fun (_, isThere) => !isThere))

/-- The number for a row that is added to a table. -/
def newNumber (root : Nat) : Drafting Int := do
  let image ← current
  let way ← need (Way.toEnd? image true root)
  let page ← need (way.page? image)
  if page.count = 0 then return 1
  let last := page.numberOf (page.count - 1)
  if last < lastNumber then return last + 1 else need (spareNumber image root)

def addRow (root : Nat) (number : Int) (bytes : ByteArray) : Drafting Unit := do
  let (way, isThere) ← need (Way.toRow? (← current) root number)
  if isThere then replaceEntry way (rowEntry number bytes)
  else putEntry way (rowEntry number bytes)

/-- Adds a row that has no number yet: its number. -/
def appendRow (root : Nat) (bytes : ByteArray) : Drafting Int := do
  let number ← newNumber root
  let way ← need (Way.toEnd? (← current) true root)
  if number < lastNumber then putEntry way (rowEntry number bytes)
  else addRow root number bytes
  return number

end Rows

def addKey (root : Nat) (key : List (KeyPart × Cell)) (bytes : ByteArray) : Drafting Unit := do
  let (way, _) ← need (Way.toKey? (← current) root key .eq)
  putEntry way (keyEntry bytes)

end Draft
end Likeness
