import Likeness.Text.Utf8

/-!
# Encodings of texts

A text is kept as UTF-8, or as UTF-16 with either byte of a unit in front.  `Encoding.encode`
writes it, and `Encoding.decode` reads it back; bytes that are no text come back as they would
stand in UTF-8.  `Utf8.fault?` says where bytes cease to be UTF-8.
-/

namespace Likeness

/-- How texts are kept as bytes. -/
inductive Encoding
  | utf8
  /-- In units of two bytes, with the low byte or the high byte in front. -/
  | utf16 (lowFirst : Bool)
deriving DecidableEq, Repr, Inhabited

namespace Encoding

section Units

/-- The units of a character. -/
def units (c : Char) : List Nat :=
  let code := c.toNat
  if code < 0x10000 then [code]
  else [0xd800 + (code - 0x10000) / 1024, 0xdc00 + (code - 0x10000) % 1024]

/-- A unit as two bytes. -/
def unitBytes (lowFirst : Bool) (unit : Nat) : List UInt8 :=
  let high := (unit / 256).toUInt8
  let low := unit.toUInt8
  if lowFirst then [low, high] else [high, low]

/-- The units that bytes hold; a byte that is left over is none. -/
def unitsOf (lowFirst : Bool) : List UInt8 → List Nat
  | a :: b :: rest =>
      (if lowFirst then a.toNat + 256 * b.toNat else 256 * a.toNat + b.toNat)
        :: unitsOf lowFirst rest
  | _ => []

/-- The code points that units hold.  A unit of the range for pairs takes the next one with it,
whatever that is. -/
def codes : List Nat → List Nat
  | [] => []
  | [unit] => [unit]
  | unit :: next :: rest =>
      if 0xd800 ≤ unit ∧ unit < 0xe000 then
        (next % 1024 + 1024 * (unit % 64) + 1024 * (64 * (unit / 64 % 16) + 64)) :: codes rest
      else unit :: codes (next :: rest)

/-- The bytes of a code point, whether it is one of a character or not. -/
def codeBytes (code : Nat) : List UInt8 :=
  let tail (shift : Nat) : UInt8 := (128 + code / shift % 64).toUInt8
  if code < 0x80 then [code.toUInt8]
  else if code < 0x800 then [(0xc0 + code / 64).toUInt8, tail 1]
  else if code < 0x10000 then [(0xe0 + code / 4096).toUInt8, tail 64, tail 1]
  else [(0xf0 + code / 262144 % 8).toUInt8, tail 4096, tail 64, tail 1]

end Units

def encode (encoding : Encoding) (text : String) : List UInt8 :=
  match encoding with
  | .utf8 => text.toUTF8.toList
  | .utf16 lowFirst => (text.toList.flatMap units).flatMap (unitBytes lowFirst)

/-- The text that bytes hold, or those bytes in UTF-8 if they are no text. -/
def decode (encoding : Encoding) (bytes : List UInt8) : Except (List UInt8) String :=
  let utf8 :=
    match encoding with
    | .utf8 => bytes
    | .utf16 lowFirst => (codes (unitsOf lowFirst bytes)).flatMap codeBytes
  match String.fromUTF8? ⟨utf8.toArray⟩ with
  | some text => .ok text
  | none => .error utf8

end Encoding

namespace Utf8

/-- Where bytes cease to be UTF-8, and how many of the bytes from there on cannot stand
together; there is no such number if only further bytes are missing. -/
structure Flaw where
  place : Nat
  length? : Option Nat
deriving DecidableEq, Repr

/-- The flaw of bytes that start behind `place` others. -/
def flawFrom? (place : Nat) : List UInt8 → Option Flaw
  | [] => none
  | byte :: bytes =>
      match lead? byte with
      | none => some ⟨place, some 1⟩
      | some l =>
          let step := complete l.low l.high l.bits l.further bytes
          let taken := bytes.length - step.2.length
          if taken = l.further then flawFrom? (place + 1 + taken) step.2
          else some ⟨place, if step.2.isEmpty then none else some (1 + taken)⟩
termination_by bytes => bytes.length
decreasing_by
  have := length_complete l.low l.high l.bits l.further bytes
  simp only [List.length_cons]
  omega

/-- The first flaw of some bytes. -/
def flaw? (bytes : List UInt8) : Option Flaw :=
  flawFrom? 0 bytes

def Flaw.message (flaw : Flaw) : String :=
  match flaw.length? with
  | some length =>
      "invalid utf-8 sequence of " ++ toString length ++ " bytes from index "
        ++ toString flaw.place
  | none => "incomplete utf-8 byte sequence from index " ++ toString flaw.place

end Utf8
end Likeness
