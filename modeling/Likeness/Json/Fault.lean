import Likeness.Binary64.Text
import Likeness.Text.Quoted

/-!
# Faults in a JSON text

Reading stops at the first fault.  A `Fault` says what is wrong (`Cause`) and where: it
holds the part of the text that was unread when the fault was noticed, and how many bytes
of that part already belong to the fault.  `Fault.locate` turns this into a line, counted
from one, and a column, counted in bytes since the last line feed.

A cause is of one of three categories: the text ends too early, it is no JSON, or it is
JSON that does not fit the type that is read.
-/

namespace Likeness
namespace Json

/-- A value that stands where another kind of value is due. -/
inductive Found
  | null
  | flag (value : Bool)
  | integer (value : Int)
  | real (value : Binary64)
  | text (value : String)
  | sequence
  | map
deriving DecidableEq, Repr

/-- What is wrong with a text. -/
inductive Cause
  | endInList
  | endInObject
  | endInText
  | endInValue
  | noColon
  | noListEnd
  | noObjectEnd
  | noWord
  | noValue
  | badEscape
  | badNumber
  | numberTooLarge
  | controlCharacter
  | keyNoText
  | loneSurrogate
  | openSurrogate
  | trailingComma
  | trailingText
  | wrongType (found : Found) (expected : String)
  | wrongValue (found : Found) (expected : String)
  | wrongLength (length : Nat) (expected : String)
  | missingMember (name : String)
  | repeatedMember (name : String)
  | unknownChoice (name : String) (choices : List String)
deriving DecidableEq, Repr

/-- The three kinds of cause. -/
inductive Category
  | early
  | grammar
  | type
deriving DecidableEq, Repr

def Found.message : Found → String
  | .null => "null"
  | .flag value => "boolean `" ++ (if value then "true" else "false") ++ "`"
  | .integer value => "integer `" ++ toString value ++ "`"
  | .real value => "floating point `" ++ value.json ++ "`"
  | .text value => "string " ++ Quoting.text.quote value
  | .sequence => "sequence"
  | .map => "map"

namespace Cause

/-- Names between backticks, separated by commas. -/
def listed (names : List String) : String :=
  ", ".intercalate (names.map (fun name => "`" ++ name ++ "`"))

def message : Cause → String
  | .endInList => "EOF while parsing a list"
  | .endInObject => "EOF while parsing an object"
  | .endInText => "EOF while parsing a string"
  | .endInValue => "EOF while parsing a value"
  | .noColon => "expected `:`"
  | .noListEnd => "expected `,` or `]`"
  | .noObjectEnd => "expected `,` or `\x7d`"
  | .noWord => "expected ident"
  | .noValue => "expected value"
  | .badEscape => "invalid escape"
  | .badNumber => "invalid number"
  | .numberTooLarge => "number out of range"
  | .controlCharacter =>
      "control character (\\u0000-\\u001F) found while parsing a string"
  | .keyNoText => "key must be a string"
  | .loneSurrogate => "lone leading surrogate in hex escape"
  | .openSurrogate => "unexpected end of hex escape"
  | .trailingComma => "trailing comma"
  | .trailingText => "trailing characters"
  | .wrongType found expected => "invalid type: " ++ found.message ++ ", expected " ++ expected
  | .wrongValue found expected =>
      "invalid value: " ++ found.message ++ ", expected " ++ expected
  | .wrongLength length expected =>
      "invalid length " ++ toString length ++ ", expected " ++ expected
  | .missingMember name => "missing field `" ++ name ++ "`"
  | .repeatedMember name => "duplicate field `" ++ name ++ "`"
  | .unknownChoice name choices =>
      "unknown variant `" ++ name ++ "`, expected one of " ++ listed choices

def category : Cause → Category
  | .endInList | .endInObject | .endInText | .endInValue => .early
  | .wrongType .. | .wrongValue .. | .wrongLength .. | .missingMember .. | .repeatedMember ..
  | .unknownChoice .. => .type
  | _ => .grammar

end Cause

section Places

/-- A place in a text: line from one, column in bytes from zero. -/
structure Place where
  line : Nat
  column : Nat
deriving DecidableEq, Repr, Inhabited

namespace Place

/-- The place before the first character. -/
def start : Place := ⟨1, 0⟩

/-- The place behind a character. -/
def past (place : Place) (c : Char) : Place :=
  if c = '\n' then ⟨place.line + 1, 0⟩ else ⟨place.line, place.column + c.utf8Size⟩

/-- The place some bytes further on, which may lie inside of a character. -/
def forward (place : Place) : Nat → List Char → Place
  | _, [] => place
  | bytes, c :: rest =>
      if bytes = 0 then place
      else if c.utf8Size ≤ bytes then (place.past c).forward (bytes - c.utf8Size) rest
      else ⟨place.line, place.column + bytes⟩

end Place

/-- A cause, what was unread when it was noticed, and how many bytes of that belong to it. -/
structure Fault where
  cause : Cause
  unread : List Char
  bytes : Nat
deriving DecidableEq, Repr

namespace Fault

/-- A fault before the unread part. -/
def before (cause : Cause) (unread : List Char) : Fault :=
  ⟨cause, unread, 0⟩

/-- A fault of the first byte of the unread part. -/
def within (cause : Cause) (unread : List Char) : Fault :=
  ⟨cause, unread, 1⟩

/-- Where in the whole text the fault lies. -/
def locate (text : List Char) (fault : Fault) : Place :=
  ((text.take (text.length - fault.unread.length)).foldl Place.past Place.start).forward
    fault.bytes fault.unread

end Fault

/-- A cause and its place: what the reader of a whole text answers. -/
structure Rejection where
  cause : Cause
  place : Place
deriving DecidableEq, Repr

namespace Rejection

def ofFault (text : List Char) (fault : Fault) : Rejection :=
  ⟨fault.cause, fault.locate text⟩

def message (r : Rejection) : String :=
  r.cause.message ++ " at line " ++ toString r.place.line ++ " column "
    ++ toString r.place.column

/-- A rejection as a value of its own, for reports that show values. -/
def inspect (r : Rejection) : String :=
  "Error(" ++ Quoting.text.quote r.cause.message ++ ", line: " ++ toString r.place.line
    ++ ", column: " ++ toString r.place.column ++ ")"

end Rejection

end Places

end Json
end Likeness
