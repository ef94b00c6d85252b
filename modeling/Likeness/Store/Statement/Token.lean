import Likeness.Store.Cell

/-!
# Tokens of statements

The definition of a table is kept as the statement that made it.  `Token.scan` divides a
statement into tokens; blanks and comments go with the token behind them.  What is no token stays
as one that no rule accepts, so that an earlier fault comes first.

`Token.span` is what stands from one token to another.
-/

namespace Likeness

/-- The kinds of tokens. -/
inductive TokenKind
  /-- A name or a keyword. -/
  | word
  /-- A name between quotes or brackets. -/
  | quoted
  | string
  | number
  /-- Bytes by their hexadecimal digits. -/
  | bytes
  | variable
  | sign
  | blank
  | illegal
deriving DecidableEq, Repr

/-- A piece of a statement. -/
structure Token where
  kind : TokenKind
  /-- Blanks and comments in front of it. -/
  before : String
  /-- As it is written. -/
  raw : String
deriving DecidableEq, Repr

namespace Token

section Scanning

/-- A character between tokens. -/
def isBlank (c : Char) : Bool :=
  c == ' ' || c == '\t' || c == '\n' || c == '\x0c' || c == '\r'

def isNamePart (c : Char) : Bool :=
  c.isAlphanum || c == '_' || c == '$' || 128 ≤ c.toNat

/-- Number of characters in front of the first two that end a comment, and of these. -/
def commentLength : List Char → Nat
  | [] => 0
  | '*' :: '/' :: _ => 2
  | _ :: rest => 1 + commentLength rest

/-- Number of characters up to a quote that stands alone, if there is one. -/
def quotedLength? (quote : Char) : List Char → Option Nat
  | [] => none
  | [c] => if c = quote then some 1 else none
  | c :: d :: rest =>
      if c = quote then
        if d = quote then (quotedLength? quote rest).map (2 + ·) else some 1
      else (quotedLength? quote (d :: rest)).map (1 + ·)

/-- A piece that ends with a quote. -/
def quotedAt (kind : TokenKind) (quote : Char) (rest : List Char) : TokenKind × Nat :=
  match quotedLength? quote rest with
  | some length => (kind, 1 + length)
  | none => (.illegal, 1 + rest.length)

/-- A name between brackets, from behind the first one. -/
def bracketedAt (rest : List Char) : TokenKind × Nat :=
  let length := (rest.takeWhile (fun c => c != ']')).length
  if length < rest.length then (.quoted, length + 2) else (.illegal, length + 1)

/-- Number of decimal digits at the start. -/
def digitCount (s : List Char) : Nat :=
  (s.takeWhile Char.isDigit).length

/-- Number of characters of an exponent at the start. -/
def exponentLength : List Char → Nat
  | e :: rest =>
      if e.toLower != 'e' then 0
      else
        let sign := if rest.head? = some '+' ∨ rest.head? = some '-' then 1 else 0
        let digits := digitCount (rest.drop sign)
        if digits = 0 then 0 else 1 + sign + digits
  | [] => 0

def numberLength (s : List Char) : Nat :=
  let hexadecimal := ((s.drop 2).takeWhile (fun c => "0123456789abcdef".contains c.toLower)).length
  if s.head? = some '0' ∧ (s[1]?).map Char.toLower = some 'x' ∧ 0 < hexadecimal then
    2 + hexadecimal
  else
    let whole := digitCount s
    let point := if (s.drop whole).head? = some '.' then 1 else 0
    let fraction := if point = 0 then 0 else digitCount (s.drop (whole + 1))
    let length := whole + point + fraction
    length + exponentLength (s.drop length)

/-- A number at the start; letters right behind it make it none. -/
def numberAt (s : List Char) : TokenKind × Nat :=
  let length := numberLength s
  let more := ((s.drop length).takeWhile isNamePart).length
  (if more = 0 then .number else .illegal, length + more)

/-- Bytes by their digits, from behind the first quote. -/
def bytesAt (rest : List Char) : TokenKind × Nat :=
  let digits := (rest.takeWhile (fun c => "0123456789abcdef".contains c.toLower)).length
  if digits % 2 = 0 ∧ (rest.drop digits).head? = some '\x27' then (.bytes, 3 + digits)
  else
    let length := (rest.takeWhile (fun c => c != '\x27')).length
    (.illegal, 2 + length + ((rest.drop length).take 1).length)

/-- The signs of two characters and more. -/
def longSigns : List String :=
  ["->>", "->", "==", "<=", "<>", "<<", ">=", ">>", "!=", "||"]

/-- The signs of one character. -/
def shortSigns : List Char :=
  "()+*/%=<>|,&~;-.".toList

def signAt (c : Char) (rest : List Char) : TokenKind × Nat :=
  match longSigns.find? (fun sign => sign.toList.isPrefixOf (c :: rest)) with
  | some sign => (.sign, sign.length)
  | none => (if shortSigns.contains c then .sign else .illegal, 1)

def variableAt (rest : List Char) : TokenKind × Nat :=
  let length := (rest.takeWhile isNamePart).length
  (if length = 0 then .illegal else .variable, 1 + length)

/-- The kind of the token at the start of a text, and its length. -/
def first : List Char → TokenKind × Nat
  | [] => (.illegal, 0)
  | '-' :: '-' :: rest => (.blank, 2 + (rest.takeWhile (fun c => c != '\n')).length)
  | '/' :: '*' :: c :: rest => (.blank, 2 + commentLength (c :: rest))
  | c :: rest =>
      if isBlank c then (.blank, 1)
      else if c = '\x27' then quotedAt .string c rest
      else if c = '"' ∨ c = '\x60' then quotedAt .quoted c rest
      else if c = '[' then bracketedAt rest
      else if c.isDigit ∨ (c = '.' ∧ (rest.head?).any Char.isDigit) then numberAt (c :: rest)
      else if c.toLower = 'x' ∧ rest.head? = some '\x27' then bytesAt (rest.drop 1)
      else if c = '?' then (.variable, 1 + digitCount rest)
      else if c = '$' ∨ c = '@' ∨ c = '#' ∨ c = ':' then variableAt rest
      else if isNamePart c then (.word, 1 + (rest.takeWhile isNamePart).length)
      else signAt c rest

/-- The tokens of a text of at most `fuel` characters, of which the first one stands behind some
blanks. -/
def scanFrom : (fuel : Nat) → (blanks : List Char) → List Char → List Token
  | 0, _, _ => []
  | fuel + 1, blanks, s =>
      if s.isEmpty then []
      else
        let (kind, length) := first s
        let rest := s.drop length
        if kind = .blank then scanFrom fuel (blanks ++ s.take length) rest
        else
          ⟨kind, String.ofList blanks, String.ofList (s.take length)⟩ :: scanFrom fuel [] rest

/-- The tokens of a statement, which ends in front of the first null. -/
def scan (statement : String) : List Token :=
  let s := statement.toList.takeWhile (fun c => c != '\x00')
  scanFrom s.length [] s

/-- What stands from the first one of some tokens to the last one. -/
def span : List Token → String
  | [] => ""
  | first :: rest =>
      first.raw ++ String.join (rest.map (fun token => token.before ++ token.raw))

/-- What stands in front of some tokens, in them, and up to the one behind them, without blanks
around it. -/
def between (tokens : List Token) (behind : Token) : String :=
  let text := String.join (tokens.map (fun token => token.before ++ token.raw)) ++ behind.before
  let isSpace := fun c : Char => c == ' ' || (9 ≤ c.toNat && c.toNat ≤ 13)
  String.ofList ((text.toList.dropWhile isSpace).reverse.dropWhile isSpace).reverse

end Scanning

section Meaning

/-- The keywords that are no names. -/
def reserved : List String :=
  ["add", "all", "alter", "and", "as", "autoincrement", "between", "case", "check", "collate",
    "commit", "constraint", "create", "default", "deferrable", "delete", "distinct", "drop",
    "else", "escape", "except", "exists", "foreign", "from", "group", "having", "in", "index",
    "insert", "intersect", "into", "is", "isnull", "join", "limit", "not", "nothing", "notnull",
    "null", "on", "or", "order", "primary", "references", "returning", "select", "set", "table",
    "then", "to", "transaction", "union", "unique", "update", "using", "values", "when",
    "where"]

/-- The keywords that are names of columns and tables, but not of types. -/
def halfReserved : List String :=
  ["cross", "full", "indexed", "inner", "left", "natural", "outer", "right"]

/-- A word in small letters, or a sign. -/
def key (token : Token) : String :=
  token.raw.toLower

def isKey (key : String) (token : Token) : Bool :=
  (token.kind == .word || token.kind == .sign) && token.key == key

/-- What stands in front of a quote, with doubled quotes taken for one. -/
def upToQuote (quote : Char) : List Char → List Char
  | [] => []
  | [c] => if c = quote then [] else [c]
  | c :: d :: rest =>
      if c ≠ quote then c :: upToQuote quote (d :: rest)
      else if d = quote then quote :: upToQuote quote rest
      else []

/-- A text without the quotes that it starts with and ends with, if it does. -/
def unquoted (text : String) : String :=
  match text.toList with
  | '[' :: rest => String.ofList (upToQuote ']' rest)
  | quote :: rest =>
      if quote = '\x27' ∨ quote = '"' ∨ quote = '\x60' then String.ofList (upToQuote quote rest)
      else text
  | [] => text

/-- What a token stands for: itself, or what stands between its quotes. -/
def value (token : Token) : String :=
  match token.kind with
  | .quoted | .string => unquoted token.raw
  | _ => token.raw

def isTypeName (token : Token) : Bool :=
  match token.kind with
  | .quoted | .string => true
  | .word => !reserved.contains token.key && !halfReserved.contains token.key
  | _ => false

/-- Whether a token is a word that is no keyword, or stands between quotes for a name. -/
def isWord (token : Token) : Bool :=
  token.kind != .string && token.isTypeName

def isName (token : Token) : Bool :=
  token.isTypeName || (token.kind == .word && halfReserved.contains token.key)

end Meaning

end Token
end Likeness
