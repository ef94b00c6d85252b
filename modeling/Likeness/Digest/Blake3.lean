import Likeness.Instances

/-!
# BLAKE3

A message is cut into chunks of 1024 bytes and each chunk into blocks of 64 bytes.  The
blocks of a chunk are compressed one after the other, each with the chaining value of the one
before; the chunks are then the leaves of a binary tree, in which every left subtree is the
largest complete one that leaves something for the right.  The last compression of all has a
flag of its own, and its first eight words are the digest.
-/

namespace Likeness
namespace Blake3

/-- Eight or sixteen words of 32 bits. -/
abbrev Words := Array UInt32

/-- The first chaining value. -/
def startWords : Words := #[
  0x6A09E667, 0xBB67AE85, 0x3C6EF372, 0xA54FF53A,
  0x510E527F, 0x9B05688C, 0x1F83D9AB, 0x5BE0CD19]

/-- Where each message word of a round is taken from in the next one. -/
def schedule : List Nat :=
  [2, 6, 3, 10, 7, 0, 4, 13, 1, 11, 12, 5, 9, 14, 15, 8]

/-- Flags of a compression. -/
def chunkStart : UInt32 := 1
def chunkEnd : UInt32 := 2
def parentFlag : UInt32 := 4
def rootFlag : UInt32 := 8

/-- A word turned to the right. -/
def rotate (x count : UInt32) : UInt32 :=
  (x >>> count) ||| (x <<< (32 - count))

/-- A word of an array; those behind the end are zero. -/
def wordAt (words : Words) (k : Nat) : UInt32 :=
  words.getD k 0

/-- Mixes two message words into four state words. -/
def mix (state : Words) (a b c d : Nat) (x y : UInt32) : Words :=
  let a1 := wordAt state a + wordAt state b + x
  let d1 := rotate (wordAt state d ^^^ a1) 16
  let c1 := wordAt state c + d1
  let b1 := rotate (wordAt state b ^^^ c1) 12
  let a2 := a1 + b1 + y
  let d2 := rotate (d1 ^^^ a2) 8
  let c2 := c1 + d2
  let b2 := rotate (b1 ^^^ c2) 7
  (((state.setIfInBounds a a2).setIfInBounds b b2).setIfInBounds c c2).setIfInBounds d d2

/-- One round: the columns and then the diagonals. -/
def round (state message : Words) : Words :=
  let m := wordAt message
  let state := mix state 0 4 8 12 (m 0) (m 1)
  let state := mix state 1 5 9 13 (m 2) (m 3)
  let state := mix state 2 6 10 14 (m 4) (m 5)
  let state := mix state 3 7 11 15 (m 6) (m 7)
  let state := mix state 0 5 10 15 (m 8) (m 9)
  let state := mix state 1 6 11 12 (m 10) (m 11)
  let state := mix state 2 7 8 13 (m 12) (m 13)
  mix state 3 4 9 14 (m 14) (m 15)

/-- The message words of the next round. -/
def permute (message : Words) : Words :=
  (schedule.map (wordAt message)).toArray

/-- Some rounds, with the message words permuted in between. -/
def rounds : Nat → Words → Words → Words
  | 0, state, _ => state
  | count + 1, state, message => rounds count (round state message) (permute message)

/-- A compression that has not been carried out. -/
structure Node where
  chaining : Words
  message : Words
  counter : UInt64
  length : UInt32
  flags : UInt32

/-- The first eight words of a compression. -/
def Node.compress (node : Node) : Words :=
  let state :=
    node.chaining ++ (startWords.extract 0 4
      ++ #[node.counter.toUInt32, (node.counter >>> 32).toUInt32, node.length, node.flags])
  let state := rounds 7 state node.message
  ((List.range 8).map (fun k => wordAt state k ^^^ wordAt state (k + 8))).toArray

/-- Four bytes, the least significant one first. -/
def wordOf : List UInt8 → UInt32
  | [] => 0
  | b :: bytes => b.toUInt32 ||| (wordOf bytes <<< 8)

/-- Sixteen words of a block of at most 64 bytes. -/
def blockWords (block : List UInt8) : Words :=
  ((List.range 16).map (fun k => wordOf ((block.drop (4 * k)).take 4))).toArray

/-- A list cut into pieces of a given length, the last of which may be shorter. -/
def pieces {α : Type} (length : Nat) (xs : List α) : List (List α) :=
  if _h : xs = [] ∨ length = 0 then []
  else xs.take length :: pieces length (xs.drop length)
termination_by xs.length
decreasing_by
  simp only [not_or] at _h
  have := List.length_pos_iff.2 _h.1
  rw [List.length_drop]
  omega

/-- The last compression of a chunk; its blocks are compressed in order. -/
def chunkNode (counter : UInt64) (chaining : Words) (flags : UInt32) :
    List (List UInt8) → Node
  | [] => ⟨chaining, blockWords [], counter, 0, flags ||| chunkEnd⟩
  | [block] => ⟨chaining, blockWords block, counter, block.length.toUInt32, flags ||| chunkEnd⟩
  | block :: blocks =>
      let node : Node := ⟨chaining, blockWords block, counter, block.length.toUInt32, flags⟩
      chunkNode counter node.compress 0 blocks

/-- The compression of two chaining values. -/
def parentNode (left right : Words) : Node :=
  ⟨startWords, left ++ right, 0, 64, parentFlag⟩

/-- The largest power of two below a number above one. -/
def leftSize (n : Nat) : Nat :=
  2 ^ (n - 1).log2

/-- The root of the tree over some chunks. -/
def treeNode (chunks : List Node) : Node :=
  match chunks with
  | [] => chunkNode 0 startWords chunkStart []
  | [chunk] => chunk
  | first :: second :: rest =>
      let all := first :: second :: rest
      let size := leftSize all.length
      parentNode (treeNode (all.take size)).compress (treeNode (all.drop size)).compress
termination_by chunks.length
decreasing_by
  · have h : leftSize (rest.length + 1 + 1) ≤ rest.length + 1 :=
      Nat.log2_self_le (Nat.succ_ne_zero _)
    simp only [List.length_take, List.length_cons]
    omega
  · have h : 0 < leftSize (rest.length + 1 + 1) := Nat.two_pow_pos _
    simp only [List.length_drop, List.length_cons]
    omega

def chunks (message : List UInt8) : List Node :=
  (pieces 1024 message).zipIdx.map
    (fun (chunk, k) => chunkNode k.toUInt64 startWords chunkStart (pieces 64 chunk))

/-- The eight words of the digest. -/
def digest (message : List UInt8) : Words :=
  let root := treeNode (chunks message)
  Node.compress { root with flags := root.flags ||| rootFlag }

/-- A byte as two hexadecimal digits. -/
def hexByte (b : UInt8) : List Char :=
  let digit (n : Nat) : Char := if n < 10 then Char.ofNat (n + 48) else Char.ofNat (n + 87)
  [digit (b.toNat / 16), digit (b.toNat % 16)]

/-- The bytes of a word, the least significant one first. -/
def bytesOf (word : UInt32) : List UInt8 :=
  [word.toUInt8, (word >>> 8).toUInt8, (word >>> 16).toUInt8, (word >>> 24).toUInt8]

/-- The digest of a message in hexadecimal digits. -/
def hex (message : List UInt8) : String :=
  String.ofList ((digest message).toList.flatMap (fun word => (bytesOf word).flatMap hexByte))

end Blake3
end Likeness
