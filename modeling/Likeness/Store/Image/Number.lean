import Likeness.Instances

/-!
# Numbers in a file

The file of a store holds numbers of one to eight bytes with the high bytes first, and numbers
of as many bytes as they need: seven bits to a byte, each byte but the last with its high bit
set, and all eight bits of a ninth byte.

Behind its end a file reads as zeros.
-/

namespace Likeness
namespace Image

section Reading

def byteAt (content : ByteArray) (place : Nat) : Nat :=
  (content[place]?.map UInt8.toNat).getD 0

/-- A number of `count` bytes. -/
def numberAt (content : ByteArray) (place count : Nat) : Nat :=
  (List.range count).foldl (fun number k => 256 * number + byteAt content (place + k)) 0

/-- A number of two bytes. -/
def pairAt (content : ByteArray) (place : Nat) : Nat :=
  numberAt content place 2

/-- A number of four bytes. -/
def quadAt (content : ByteArray) (place : Nat) : Nat :=
  numberAt content place 4

/-- A number of `count` bytes that may be negative. -/
def signedAt (content : ByteArray) (place count : Nat) : Int :=
  Int.bmod (numberAt content place count) (256 ^ count)

/-- Goes on with a number of as many bytes as it needs: the number, and the place behind it.  At
most `further` bytes have a high bit. -/
def longFrom (content : ByteArray) (number : Nat) : (further place : Nat) → Nat × Nat
  | 0, place => (256 * number + byteAt content place, place + 1)
  | further + 1, place =>
      let byte := byteAt content place
      if byte < 128 then (128 * number + byte, place + 1)
      else longFrom content (128 * number + byte % 128) further (place + 1)

/-- A number of as many bytes as it needs, and the place behind it. -/
def longAt (content : ByteArray) (place : Nat) : Nat × Nat :=
  longFrom content 0 8 place

/-- Goes on with the size of an entry: seven bits to a byte, even to the last one. -/
def sizeFrom (content : ByteArray) (number : Nat) : (further place : Nat) → Nat × Nat
  | 0, place => (128 * number + byteAt content place % 128, place + 1)
  | further + 1, place =>
      let byte := byteAt content place
      if byte < 128 then (128 * number + byte, place + 1)
      else sizeFrom content (128 * number + byte % 128) further (place + 1)

/-- The size of an entry, which fits four bytes, and the place behind it. -/
def sizeAt (content : ByteArray) (place : Nat) : Nat × Nat :=
  let (number, next) := sizeFrom content 0 8 place
  (number % 2 ^ 32, next)

end Reading

section Writing

/-- A number as `count` bytes. -/
def bytesOf (count : Nat) (number : Int) : List UInt8 :=
  let word := (number % 256 ^ count).toNat
  (List.range count).map (fun k => (word / 256 ^ (count - 1 - k)).toUInt8)

/-- The groups of seven bits of a number, the low ones last, each with a high bit. -/
def groups (count number : Nat) : List UInt8 :=
  (List.range count).map (fun k => (128 + number / 128 ^ (count - 1 - k) % 128).toUInt8)

/-- Number of groups of seven bits of a number. -/
def groupCount (number : Nat) : Nat :=
  number.log2 / 7 + 1

/-- A number in as few bytes as it needs. -/
def longBytes (number : Nat) : List UInt8 :=
  if number < 2 ^ 56 then
    groups (groupCount number - 1) (number / 128) ++ [(number % 128).toUInt8]
  else groups 8 (number / 256) ++ [number.toUInt8]

/-- Some bytes with others in the place of those from a place on. -/
def overwrite (bytes : ByteArray) (place : Nat) (written : List UInt8) : ByteArray :=
  written.zipIdx.foldl (fun bytes (byte, k) => bytes.set! (place + k) byte) bytes

def setByte (bytes : ByteArray) (place number : Nat) : ByteArray :=
  bytes.set! place number.toUInt8

/-- Some bytes with a number of two bytes at a place. -/
def setPair (bytes : ByteArray) (place number : Nat) : ByteArray :=
  overwrite bytes place (bytesOf 2 number)

/-- Some bytes with a number of four bytes at a place. -/
def setQuad (bytes : ByteArray) (place number : Nat) : ByteArray :=
  overwrite bytes place (bytesOf 4 number)

/-- Some bytes with a block of others in the place of those from a place on. -/
def putBlock (bytes : ByteArray) (place : Nat) (block : ByteArray) : ByteArray :=
  bytes.extract 0 place ++ block ++ bytes.extract (place + block.size) bytes.size

/-- As many zeros. -/
def zeros (count : Nat) : ByteArray :=
  ⟨Array.replicate count 0⟩

/-- The size up to which zeros are added to a file. -/
def sizeLimit : Nat := 2 ^ 26

/-- A file cut off at a size, or with zeros up to it. -/
def resized (content : ByteArray) (size : Nat) : ByteArray :=
  if size ≤ content.size then content.extract 0 size
  else content ++ zeros (min size sizeLimit - content.size)

/-- A file with another content of one of its pages, by the number of that. -/
def putPage (content : ByteArray) (number : Nat) (page : ByteArray) : ByteArray :=
  let place := (number - 1) * page.size
  if content.size < place + page.size then content else putBlock content place page

end Writing

end Image
end Likeness
