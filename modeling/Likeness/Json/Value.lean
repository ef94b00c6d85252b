import Likeness.Binary64.Text

/-!
# Writing JSON

A document is built as a `Value` and written in one of two forms: `compact`, without
blanks, and `pretty`, with one member or element a line, indented by two spaces a level.
An empty list or object is written without blanks in both.

Texts are written between quotes.  Only the quote, the backslash and the control characters
below the space are escaped, five of them by a letter and the others by their code.

The writing functions put their text in front of a given one, so that writing takes time
in proportion to the text.
-/

namespace Likeness
namespace Json

/-- A JSON document. -/
inductive Value
  | null
  | flag (value : Bool)
  | natural (value : Nat)
  | real (value : Binary64)
  | text (value : String)
  | list (items : List Value)
  | object (members : List (String × Value))
deriving Repr, Inhabited

section Texts

/-- A hexadecimal digit, in lower case. -/
def hexDigit (n : Nat) : Char :=
  if n < 10 then Char.ofNat (n + 48) else Char.ofNat (n + 87)

/-- The letter that stands behind a backslash for a character. -/
def escapeLetter? : Char → Option Char
  | '"' => some '"'
  | '\\' => some '\\'
  | '\x08' => some 'b'
  | '\x0c' => some 'f'
  | '\n' => some 'n'
  | '\r' => some 'r'
  | '\t' => some 't'
  | _ => none

/-- The code of a control character behind a backslash. -/
def writeCode (c : Char) : List Char :=
  ['\\', 'u', '0', '0', hexDigit (c.toNat / 16), hexDigit (c.toNat % 16)]

def writeCharacter (c : Char) : List Char :=
  match escapeLetter? c with
  | some letter => ['\\', letter]
  | none => if c < ' ' then writeCode c else [c]

/-- The characters of a text and its closing quote, in front of `tail`. -/
def writeBody : List Char → List Char → List Char
  | [], tail => '"' :: tail
  | c :: rest, tail => writeCharacter c ++ writeBody rest tail

/-- A text between quotes, in front of `tail`. -/
def writeText (s : String) (tail : List Char) : List Char :=
  '"' :: writeBody s.toList tail

end Texts

/-- A number, a truth value or `null`, in front of `tail`. -/
def writeAtom (s : String) (tail : List Char) : List Char :=
  s.toList ++ tail

section Compact

mutual

/-- A document without blanks, in front of `tail`. -/
def Value.write : Value → List Char → List Char
  | .null, tail => writeAtom "null" tail
  | .flag value, tail => writeAtom (if value then "true" else "false") tail
  | .natural value, tail => writeAtom (toString value) tail
  | .real value, tail => writeAtom value.json tail
  | .text value, tail => writeText value tail
  | .list [], tail => '[' :: ']' :: tail
  | .list (item :: items), tail => '[' :: item.write (writeItems items (']' :: tail))
  | .object [], tail => '\x7b' :: '\x7d' :: tail
  | .object ((name, value) :: members), tail =>
      '\x7b' :: writeText name (':' :: value.write (writeMembers members ('\x7d' :: tail)))

/-- Further elements, each behind a comma. -/
def writeItems : List Value → List Char → List Char
  | [], tail => tail
  | item :: items, tail => ',' :: item.write (writeItems items tail)

/-- Further members, each behind a comma. -/
def writeMembers : List (String × Value) → List Char → List Char
  | [], tail => tail
  | (name, value) :: members, tail =>
      ',' :: writeText name (':' :: value.write (writeMembers members tail))

end

/-- The document without blanks. -/
def Value.compact (value : Value) : String :=
  String.ofList (value.write [])

end Compact

section Pretty

/-- A new line, indented by two spaces a level, in front of `tail`. -/
def newLine (level : Nat) (tail : List Char) : List Char :=
  '\n' :: (List.replicate (2 * level) ' ' ++ tail)

mutual

/-- A document with a line for each part, in front of `tail`.  The line it starts on is
indented by `level`. -/
def Value.writeLines (level : Nat) : Value → List Char → List Char
  | .null, tail => writeAtom "null" tail
  | .flag value, tail => writeAtom (if value then "true" else "false") tail
  | .natural value, tail => writeAtom (toString value) tail
  | .real value, tail => writeAtom value.json tail
  | .text value, tail => writeText value tail
  | .list [], tail => '[' :: ']' :: tail
  | .list (item :: items), tail =>
      '[' :: newLine (level + 1) (item.writeLines (level + 1)
        (writeItemLines (level + 1) items (newLine level (']' :: tail))))
  | .object [], tail => '\x7b' :: '\x7d' :: tail
  | .object ((name, value) :: members), tail =>
      '\x7b' :: newLine (level + 1) (writeText name (':' :: ' ' ::
        value.writeLines (level + 1)
          (writeMemberLines (level + 1) members (newLine level ('\x7d' :: tail)))))

/-- Further elements, each behind a comma and on a line of its own. -/
def writeItemLines (level : Nat) : List Value → List Char → List Char
  | [], tail => tail
  | item :: items, tail =>
      ',' :: newLine level (item.writeLines level (writeItemLines level items tail))

/-- Further members, each behind a comma and on a line of its own. -/
def writeMemberLines (level : Nat) : List (String × Value) → List Char → List Char
  | [], tail => tail
  | (name, value) :: members, tail =>
      ',' :: newLine level (writeText name (':' :: ' ' ::
        value.writeLines level (writeMemberLines level members tail)))

end

/-- The document with a line for each part. -/
def Value.pretty (value : Value) : String :=
  String.ofList (value.writeLines 0 [])

end Pretty

/-- The value of something that may be absent. -/
def Value.ofOption {α : Type} (f : α → Value) : Option α → Value
  | none => .null
  | some value => f value

end Json
end Likeness
