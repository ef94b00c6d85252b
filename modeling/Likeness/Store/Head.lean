import Likeness.Store.Fault
import Likeness.Store.Image.Page

/-!
# The head of a file

The file of a store starts with a title and a few numbers, in a hundred bytes: the size of a
page and how much of each page is spare, who may read and write the file, the number of pages
and of free pages, the format of the tables, and the encoding of texts.  The first page goes on
behind them with the list of all tables.

* `Head.refusal?` says why a file is no store.
* `Head.image` divides a file into its pages, and `Head.content` joins them.
* `Head.isWritable` and `Head.isLogged` read further facts off it.
* `Head.fresh` is the image of a file without tables.
-/

namespace Likeness
namespace Head

open Image

/-- The title, at the very start. -/
def title : ByteArray := "SQLite format 3\x00".toUTF8

/-- Number of bytes in front of the first page's own content. -/
def size : Nat := 100

/-- The three bytes that every file has. -/
def fixed : List Nat := [64, 32, 32]

def pageSizes : List Nat := (List.range 8).map (fun k => 512 * 2 ^ k)

/-- The least part of a page that has to be in use. -/
def leastUse : Nat := 480

/-- The last format of tables that is known. -/
def lastFormat : Nat := 4

/-- The last version of reading and writing that is known. -/
def lastVersion : Nat := 2

/-- The size of a page.  A page of 65536 bytes has its size written as one. -/
def pageSize (content : ByteArray) : Nat :=
  256 * byteAt content 16 + 65536 * byteAt content 17

/-- How much of a page is in use. -/
def use (content : ByteArray) : Nat :=
  pageSize content - byteAt content 20

/-- Number of pages that the file has room for. -/
def pagesThere (content : ByteArray) : Nat :=
  (content.size + pageSize content - 1) / pageSize content

/-- Number of pages that the head claims, if its last writer kept the number. -/
def pagesClaimed (content : ByteArray) : Nat :=
  if quadAt content 24 = quadAt content 92 then quadAt content 28 else 0

def pages (content : ByteArray) : Nat :=
  if pagesClaimed content = 0 then pagesThere content else pagesClaimed content

/-- Whether the bytes that no file lacks are there. -/
def isTitled (content : ByteArray) : Bool :=
  content.extract 0 title.size == title
    && (List.range 3).map (fun k => byteAt content (21 + k)) == fixed
    && byteAt content 19 ≤ lastVersion
    && pageSizes.contains (pageSize content)

/-- Why a file is no store, from its head. -/
def refusal? (content : ByteArray) : Option StoreRefusal :=
  if !isTitled content then some .notStore
  else if pagesThere content < pagesClaimed content then some .malformed
  else if use content < leastUse then some .notStore
  else if lastFormat < byteAt content 47 then some .laterFormat
  else none

/-- Whether a file is too short to hold anything. -/
def isVoid (content : ByteArray) : Bool :=
  content.size ≤ 1

/-- Whether a file may be written. -/
def isWritable (content : ByteArray) : Bool :=
  byteAt content 18 ≤ lastVersion

/-- Whether a file is written through a log. -/
def isLogged (content : ByteArray) : Bool :=
  isTitled content && byteAt content 19 == lastVersion

section Images

def encoding (content : ByteArray) : Encoding :=
  match byteAt content 59 % 4 with
  | 2 => .utf16 true
  | 3 => .utf16 false
  | _ => .utf8

def encodingNumber : Encoding → Nat
  | .utf8 => 1
  | .utf16 true => 2
  | .utf16 false => 3

/-- Some bytes, with zeros up to a size. -/
def padded (size : Nat) (bytes : ByteArray) : ByteArray :=
  if size ≤ bytes.size then bytes
  else bytes ++ zeros (size - bytes.size)

def image (content : ByteArray) : Image :=
  let size := pageSize content
  let pages := (Array.range (pages content)).map (fun k =>
    padded size (content.extract (k * size) (k * size + size)))
  ⟨size, use content, encoding content, pages⟩

/-- The content of the file with the pages of an image. -/
def content (image : Image) : ByteArray :=
  image.pages.foldl ByteArray.append .empty

/-- The image of a file without tables, with pages of 4096 bytes that may be read and
written. -/
def fresh : Image :=
  let head := title.toList ++ [16, 0, 1, 1, 0] ++ fixed.map Nat.toUInt8
  let list : List UInt8 := [13, 0, 0, 0, 0, 16, 0, 0]
  let start := padded size ⟨head.toArray⟩ ++ ⟨list.toArray⟩
  ⟨4096, 4096, .utf8, #[padded 4096 start]⟩

/-- The version of the program that writes a file, as a number. -/
def writer : Nat := 3045000

/-- An image that has been changed: its first page counts the changes and the pages, and says
who made them. -/
def stamp (image : Image) : Image :=
  { image with pages := image.pages.modify 0 (fun first =>
      let changes := bytesOf 4 (quadAt first 24 + 1)
      let first := overwrite first 24 (changes ++ bytesOf 4 image.pages.size)
      overwrite first 92 (changes ++ bytesOf 4 writer)) }

/-- An image whose list of tables has been changed: its first page counts these changes. -/
def countTables (image : Image) : Image :=
  { image with pages := image.pages.modify 0 (fun first =>
      setQuad first 40 (quadAt first 40 + 1)) }

/-- An image that is going to have tables: one that had no format has one then. -/
def settleFormat (image : Image) : Image :=
  { image with pages := image.pages.modify 0 (fun first =>
      if quadAt first 44 = 0 then
        setQuad (setQuad first 44 lastFormat) 56 (encodingNumber image.encoding)
      else first) }

end Images
end Head
end Likeness
