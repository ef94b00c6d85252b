import Likeness.Batch.Basic
import Likeness.Digest.Blake3

/-!
# The digest of a batch

A batch is identified by what was compared and what came out: its identifiers, each followed
by a null byte, and its results in the order of places, each as four words of 64 bits with the
least significant byte first.  `Batch.digestBytes` is this sequence, and `Batch.digest` its hash
in hexadecimal digits.
-/

namespace Likeness

/-- The bytes of a word of 64 bits, the least significant one first. -/
def wordBytes (word : UInt64) : List UInt8 :=
  (List.range 8).map (fun k => (word >>> (8 * k).toUInt64).toUInt8)

/-- The bytes of an identifier and a null byte. -/
def identifierBytes (name : String) : List UInt8 :=
  name.toUTF8.toList ++ [0]

/-- The places, the distance and the similarity of a result. -/
def PairResult.bytes (r : PairResult) : List UInt8 :=
  wordBytes r.i.toUInt64 ++ wordBytes r.j.toUInt64 ++ wordBytes r.distance.toUInt64
    ++ wordBytes r.similarity.bits

namespace Batch

/-- The bytes that identify a batch. -/
def digestBytes (batch : Batch) : List UInt8 :=
  batch.identifiers.flatMap identifierBytes ++ batch.sortedResults.flatMap PairResult.bytes

def digest (batch : Batch) : String :=
  Blake3.hex batch.digestBytes

end Batch

end Likeness
