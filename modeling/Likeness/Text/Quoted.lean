import Likeness.Text.Visible

/-!
# Quoted texts in messages

A message that quotes a piece of input puts it between double quotes.  Inside, a
backslash stands before the double quote and itself, the usual letters stand for a
tabulator, a line feed, a carriage return and a null, and every other character that does
not show is written as its code point in braces.

A `Quoting` says whether single quotes get a backslash as well, as they do in the names of
files.
-/

namespace Likeness

/-- The decisions of a way to quote. -/
structure Quoting where
  /-- Whether a single quote gets a backslash. -/
  singleQuote : Bool

namespace Quoting

/-- Texts leave single quotes alone. -/
def text : Quoting := ⟨false⟩

/-- Names of files do not. -/
def fileName : Quoting := ⟨true⟩

/-- A code point as `\u` and its hexadecimal digits in braces. -/
def codePoint (c : Char) : List Char :=
  '\\' :: 'u' :: '\x7b' :: (Nat.toDigits 16 c.toNat ++ ['\x7d'])

/-- What stands behind a backslash for a character, whichever way it is quoted. -/
def letter? : Char → Option Char
  | '\x00' => some '0'
  | '\t' => some 't'
  | '\r' => some 'r'
  | '\n' => some 'n'
  | '\\' => some '\\'
  | '"' => some '"'
  | _ => none

def character (quoting : Quoting) (c : Char) : List Char :=
  match letter? c with
  | some letter => ['\\', letter]
  | none =>
      if quoting.singleQuote && c = '\x27' then ['\\', c]
      else if isVisible c then [c]
      else codePoint c

/-- A text between double quotes. -/
def quote (quoting : Quoting) (s : String) : String :=
  String.ofList ('"' :: (s.toList.flatMap quoting.character ++ ['"']))

end Quoting

end Likeness
