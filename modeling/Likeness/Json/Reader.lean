import Likeness.Json.Fault
import Likeness.Text.Hexadecimal

/-!
# Readers

A reader takes a value from the front of a text and leaves the rest, or reports a fault.
This module holds the readers for blanks, for the fixed words, and for texts between
quotes.

**Texts.**  Behind a backslash stand one of eight letters, or `u` and four hexadecimal
digits.  Two such groups of digits form one character when the first is a leading
surrogate; the second must then be a trailing one, and neither may stand alone.
-/

namespace Likeness
namespace Json

/-- Takes a value from the front of a text. -/
abbrev Reader (α : Type) := List Char → Except Fault (α × List Char)

/-- Space, tabulator, line feed and carriage return. -/
def isBlank (c : Char) : Bool :=
  c = ' ' || c = '\n' || c = '\t' || c = '\r'

/-- The text from its first character that is not blank. -/
def skipBlank (s : List Char) : List Char :=
  s.dropWhile isBlank

/-- The rest of a fixed word. -/
def word : List Char → List Char → Except Fault (List Char)
  | [], s => .ok s
  | _ :: _, [] => .error (.before .endInValue [])
  | w :: ws, c :: s => if c = w then word ws s else .error (.within .noWord (c :: s))

section Escapes

/-- Value of four hexadecimal digits. -/
def hexValue? (a b c d : Char) : Option Nat :=
  hexNumber? [a, b, c, d]

/-- Whether at least this many bytes are left. -/
def hasBytes : Nat → List Char → Bool
  | 0, _ => true
  | _, [] => false
  | bytes + 1, c :: s => hasBytes (bytes + 1 - c.utf8Size) s

/-- The fault of a text that does not start with four hexadecimal digits. -/
def hexFault (s : List Char) : Fault :=
  if hasBytes 4 s then ⟨.badEscape, s, 4⟩ else .before .endInText []

/-- Four hexadecimal digits. -/
def hexGroup (s : List Char) : Except Fault (Nat × List Char) :=
  match s with
  | a :: b :: c :: d :: rest =>
      match hexValue? a b c d with
      | some value => .ok (value, rest)
      | none => .error (hexFault s)
  | _ => .error (hexFault s)

/-- The first half of a character beyond the basic plane. -/
def isLeading (n : Nat) : Bool := 0xD800 ≤ n && n ≤ 0xDBFF

/-- The second half of a character beyond the basic plane. -/
def isTrailing (n : Nat) : Bool := 0xDC00 ≤ n && n ≤ 0xDFFF

/-- The character of two halves. -/
def joined (leading trailing : Nat) : Char :=
  Char.ofNat ((leading - 0xD800) * 0x400 + (trailing - 0xDC00) + 0x10000)

/-- What follows a leading surrogate. -/
def secondHalf (leading : Nat) : List Char → Except Fault (Char × List Char)
  | [] => .error (.before .endInText [])
  | '\\' :: [] => .error (.before .endInText [])
  | '\\' :: 'u' :: s =>
      match hexGroup s with
      | .error fault => .error fault
      | .ok (n, rest) =>
          if isTrailing n then .ok (joined leading n, rest)
          else .error (.before .loneSurrogate rest)
  | '\\' :: s => .error (.within .openSurrogate s)
  | s => .error (.within .openSurrogate s)

/-- The character whose code follows. -/
def coded (s : List Char) : Except Fault (Char × List Char) :=
  match hexGroup s with
  | .error fault => .error fault
  | .ok (n, rest) =>
      if isTrailing n then .error (.before .loneSurrogate rest)
      else if isLeading n then secondHalf n rest
      else .ok (Char.ofNat n, rest)

/-- The character that a letter behind a backslash stands for. -/
def shortEscape? : Char → Option Char
  | '"' => some '"'
  | '\\' => some '\\'
  | '/' => some '/'
  | 'b' => some '\x08'
  | 'f' => some '\x0c'
  | 'n' => some '\n'
  | 'r' => some '\r'
  | 't' => some '\t'
  | _ => none

/-- The character that is written behind a backslash. -/
def escape : List Char → Except Fault (Char × List Char)
  | [] => .error (.before .endInText [])
  | 'u' :: s => coded s
  | c :: s =>
      match shortEscape? c with
      | some meant => .ok (meant, s)
      | none => .error (.within .badEscape (c :: s))

/-- Four digits are taken off the text. -/
theorem length_of_hexGroup {s rest : List Char} {n : Nat} (h : hexGroup s = .ok (n, rest)) :
    rest.length < s.length := by
  unfold hexGroup at h
  split at h
  · split at h
    · simp only [Except.ok.injEq, Prod.mk.injEq] at h
      obtain ⟨_, rfl⟩ := h
      simp only [List.length_cons]
      omega
    · cases h
  · cases h

/-- The second half of a character is taken off the text. -/
theorem length_of_secondHalf {leading : Nat} {s rest : List Char} {c : Char}
    (h : secondHalf leading s = .ok (c, rest)) : rest.length < s.length := by
  unfold secondHalf at h
  split at h
  · cases h
  · cases h
  · split at h
    · cases h
    · next hexed =>
        have := length_of_hexGroup hexed
        split at h
        · simp only [Except.ok.injEq, Prod.mk.injEq] at h
          obtain ⟨_, rfl⟩ := h
          simp only [List.length_cons]
          omega
        · cases h
  · cases h
  · cases h

/-- A code is taken off the text. -/
theorem length_of_coded {s rest : List Char} {c : Char} (h : coded s = .ok (c, rest)) :
    rest.length < s.length := by
  unfold coded at h
  split at h
  · cases h
  · next hexed =>
      have := length_of_hexGroup hexed
      split at h
      · cases h
      · split at h
        · have := length_of_secondHalf h
          omega
        · simp only [Except.ok.injEq, Prod.mk.injEq] at h
          obtain ⟨_, rfl⟩ := h
          exact this

/-- What is written behind a backslash is taken off the text. -/
theorem length_of_escape {s rest : List Char} {c : Char} (h : escape s = .ok (c, rest)) :
    rest.length < s.length := by
  unfold escape at h
  split at h
  · cases h
  · have := length_of_coded h
    simp only [List.length_cons]
    omega
  · split at h
    · simp only [Except.ok.injEq, Prod.mk.injEq] at h
      obtain ⟨_, rfl⟩ := h
      simp
    · cases h

end Escapes

section Texts

/-- Reads behind an opening quote up to the closing one; `taken` holds the characters so
far, last first. -/
def textBody (taken : List Char) (s : List Char) : Except Fault (String × List Char) :=
  match s with
  | [] => .error (.before .endInText [])
  | '"' :: rest => .ok (String.ofList taken.reverse, rest)
  | '\\' :: rest =>
      match _h : escape rest with
      | .error fault => .error fault
      | .ok (c, rest') => textBody (c :: taken) rest'
  | c :: rest =>
      if c < ' ' then .error (.within .controlCharacter (c :: rest))
      else textBody (c :: taken) rest
termination_by s.length
decreasing_by
  · have := length_of_escape _h
    simp only [List.length_cons]
    omega
  · simp

end Texts

end Json
end Likeness
