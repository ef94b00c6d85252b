/-!
# Bytes as text

Names of files and contents of files are bytes.  `String.fromUTF8?` reads those that are
UTF-8.  `Utf8.shown` reads all of them, for messages: it goes from character to character and
puts the replacement character for each longest run of bytes that could begin a character but
does not end one, and for each byte that cannot begin a character.
-/

namespace Likeness
namespace Utf8

/-- The character that stands for bytes that are no text. -/
def replacement : Char := '\ufffd'

/-- What the first byte of a character calls for: the number of further bytes, the bounds of
the next one, and the bits that the first byte contributes. -/
structure Lead where
  further : Nat
  low : UInt8
  high : UInt8
  bits : Nat
deriving DecidableEq, Repr

/-- Reads a first byte. -/
def lead? (byte : UInt8) : Option Lead :=
  if byte < 0x80 then some ⟨0, 0x80, 0xbf, byte.toNat⟩
  else if byte < 0xc2 then none
  else if byte < 0xe0 then some ⟨1, 0x80, 0xbf, byte.toNat % 32⟩
  else if byte = 0xe0 then some ⟨2, 0xa0, 0xbf, byte.toNat % 16⟩
  else if byte = 0xed then some ⟨2, 0x80, 0x9f, byte.toNat % 16⟩
  else if byte < 0xf0 then some ⟨2, 0x80, 0xbf, byte.toNat % 16⟩
  else if byte = 0xf0 then some ⟨3, 0x90, 0xbf, byte.toNat % 8⟩
  else if byte < 0xf4 then some ⟨3, 0x80, 0xbf, byte.toNat % 8⟩
  else if byte = 0xf4 then some ⟨3, 0x80, 0x8f, byte.toNat % 8⟩
  else none

/-- Reads further bytes of a character, of which the next one lies within the bounds: the
character, or its replacement before the first byte that does not fit, and the rest. -/
def complete (low high : UInt8) (code : Nat) : Nat → List UInt8 → Char × List UInt8
  | 0, bytes => (Char.ofNat code, bytes)
  | _ + 1, [] => (replacement, [])
  | further + 1, byte :: bytes =>
      if low ≤ byte ∧ byte ≤ high then
        complete 0x80 0xbf (64 * code + byte.toNat % 64) further bytes
      else (replacement, byte :: bytes)

/-- Nothing is added to the rest. -/
theorem length_complete (low high : UInt8) (code further : Nat) (bytes : List UInt8) :
    (complete low high code further bytes).2.length ≤ bytes.length := by
  induction further generalizing low high code bytes with
  | zero => exact Nat.le_refl _
  | succ further ih =>
      cases bytes with
      | nil => exact Nat.le_refl _
      | cons byte bytes =>
          unfold complete
          split
          · exact Nat.le_trans (ih _ _ _ _) (Nat.le_succ _)
          · exact Nat.le_refl _

/-- The characters read so far (`done`, last first) and those of some more bytes. -/
def decode (done : List Char) : List UInt8 → List Char
  | [] => done.reverse
  | byte :: bytes =>
      match lead? byte with
      | none => decode (replacement :: done) bytes
      | some l =>
          let step := complete l.low l.high l.bits l.further bytes
          decode (step.1 :: done) step.2
termination_by bytes => bytes.length
decreasing_by
  · simp
  · have := length_complete l.low l.high l.bits l.further bytes
    simp only [List.length_cons]
    omega

/-- Bytes as a text to show, whether they are UTF-8 or not. -/
def shown (bytes : ByteArray) : String :=
  match String.fromUTF8? bytes with
  | some s => s
  | none => String.ofList (decode [] bytes.toList)

end Utf8
end Likeness
