import Likeness.Store.Expression.Value
import Likeness.Store.Statement.Reader
import Likeness.Text.Hexadecimal

/-!
# Reading expressions

`Phrase.expression` reads an expression.  An operation binds its operands by its rank: the higher
the rank, the closer.  Operations of one rank are done from left to right.
-/

namespace Likeness
namespace Phrase

open Reading

section Literals

/-- The number that decimal digits write. -/
def decimalNumber (raw : String) : Cell :=
  match Cell.numeral? raw.toList with
  | none => .null
  | some n => if n.isPlain && Cell.fits n.integer then .integer n.integer else .real n.real

def number (raw : String) : Cell :=
  match raw.toList with
  | '0' :: x :: digits =>
      if x.toLower = 'x' then .integer (Cell.wrap ((hexNumber? digits).getD 0 : Nat))
      else decimalNumber raw
  | _ => decimalNumber raw

/-- Bytes by their digits. -/
def bytesOf : List Char → List UInt8
  | a :: b :: rest =>
      (16 * ((hexDigit? a).getD 0) + (hexDigit? b).getD 0).toUInt8 :: bytesOf rest
  | _ => []

/-- The digits of the least whole number, which has no opposite one. -/
def leastDigits : String := toString (Cell.integerLimit + 1)

/-- The words for the time by the clock. -/
def clockWords : List String := ["current_date", "current_time", "current_timestamp"]

/-- Whether a token is a value by itself. -/
def isTerm (token : Token) : Bool :=
  token.kind == .number || token.kind == .string || token.kind == .bytes
    || ("null" :: clockWords).any (fun key => token.isKey key)

def term (token : Token) : Expression :=
  match token.kind with
  | .number => .constant (number token.raw)
  | .string => .constant (.text token.value)
  | .bytes => .constant (.blob (bytesOf ((token.raw.toList.drop 2).dropLast)))
  | _ => if token.isKey "null" then .constant .null else .call token.raw .done

end Literals

section Types

/-- The name of a type: words, and one or two numbers between parentheses. -/
def typeWords : (fuel : Nat) → Reading (List String)
  | 0 => return []
  | fuel + 1 => do
      if ← meets Token.isTypeName then
        let word ← token Token.isTypeName
        return word.value :: (← typeWords fuel)
      else return []

def signedNumber : Reading Unit := do
  if !(← accepts "+") then
    let _ ← accepts "-"
  let _ ← token (fun token => token.kind == .number)
  return ()

/-- The words of a type in small letters, which may be followed by numbers.  There may be none. -/
def type : Reading (List String) := do
  let words ← typeWords (← length)
  if words.isEmpty then return []
  if ← accepts "(" then
    signedNumber
    if ← accepts "," then signedNumber
    expect ")"
  return words.map String.toLower

end Types

section Operations

/-- The ranks of operations, from the one that binds least. -/
def eitherRank : Nat := 1

def bothRank : Nat := 2

def oppositeRank : Nat := 3

def equalityRank : Nat := 4

def orderRank : Nat := 5

def bitRank : Nat := 7

def sumRank : Nat := 8

def productRank : Nat := 9

def joinRank : Nat := 10

def collationRank : Nat := 11

def signRank : Nat := 12

/-- The operations that stand between two operands, with their ranks. -/
def infixes : List (String × Nat × (Expression → Expression → Expression)) :=
  [("or", eitherRank, .either), ("and", bothRank, .both),
    ("=", equalityRank, .compared .equal), ("==", equalityRank, .compared .equal),
    ("<>", equalityRank, .compared .unequal), ("!=", equalityRank, .compared .unequal),
    ("<", orderRank, .compared .less), ("<=", orderRank, .compared .atMost),
    (">", orderRank, .compared .more), (">=", orderRank, .compared .atLeast),
    ("&", bitRank, .combined .bitAnd), ("|", bitRank, .combined .bitOr),
    ("<<", bitRank, .combined .shiftLeft), (">>", bitRank, .combined .shiftRight),
    ("+", sumRank, .combined .add), ("-", sumRank, .combined .subtract),
    ("*", productRank, .combined .multiply), ("/", productRank, .combined .divide),
    ("%", productRank, .combined .remainder), ("||", joinRank, .combined .join),
    ("->", joinRank, fun a b => .call "->" (.ofList [a, b])),
    ("->>", joinRank, fun a b => .call "->>" (.ofList [a, b]))]

/-- The words for agreement with a pattern. -/
def patternWords : List String := ["like", "glob", "regexp", "match"]

/-- The words that start a question of its own. -/
def questionWords : List String := ["select", "values", "with"]

/-- What stands for a question inside an expression. -/
def question : Expression := .outside "subqueries"

def collationOf (encoding : Encoding) (name : String) : Collation :=
  match name.toLower with
  | "nocase" => .caseless
  | "rtrim" => .trimmed
  | _ => .plain encoding

/-- Takes the tokens up to a parenthesis that closes, which stays; `depth` others are open. -/
def balanced : (fuel depth : Nat) → Reading Unit
  | 0, _ => refuse
  | fuel + 1, depth => do
      match (← upcoming).head? with
      | none => refuse
      | some token =>
          if token.kind = .illegal then refuse
          else if token.isKey ")" ∧ depth = 0 then return ()
          else
            skip
            if token.isKey "(" then balanced fuel (depth + 1)
            else if token.isKey ")" then balanced fuel (depth - 1)
            else balanced fuel depth

/-- Takes the rest of a question between parentheses. -/
def closeQuestion : Reading Expression := do
  balanced (← length) 0
  expect ")"
  return question

/-- An expression, or what is opposite to it. -/
def turned (isTurned : Bool) (expression : Expression) : Expression :=
  if isTurned then .opposite expression else expression

mutual

/-- Reads an expression whose operations have a least rank.  One that stands in front of the word
that goes with it does not take that word for an operation of its own. -/
def within (encoding : Encoding) : (fuel least : Nat) → (isBounded : Bool) → Reading Expression
  | 0, _, _ => refuse
  | fuel + 1, least, isBounded => do
      let left ← operand encoding fuel
      further encoding fuel least isBounded left

/-- Reads the operations behind an operand. -/
def further (encoding : Encoding) :
    (fuel least : Nat) → (isBounded : Bool) → Expression → Reading Expression
  | 0, _, _, left => return left
  | fuel + 1, least, isBounded, left => do
      let onward := further encoding fuel least isBounded
      match (← upcoming).head? with
      | none => return left
      | some next =>
          if isBounded && next.isKey "and" then return left
          match infixes.find? (fun (key, rank, _) => next.isKey key && least ≤ rank) with
          | some (_, rank, combine) =>
              skip
              onward (combine left (← within encoding fuel (rank + 1) false))
          | none =>
              if next.isKey "collate" && least ≤ collationRank then
                skip
                let name ← token Token.isTypeName
                onward (.collated (collationOf encoding name.value) left)
              else if next.isKey "not" && least ≤ oppositeRank then
                skip
                if ← accepts "null" then onward (.opposite (.isNull left))
                else
                  match ← seen? ("between" :: "in" :: patternWords) with
                  | some word => onward (← relation encoding fuel left true word)
                  | none => refuse
              else if equalityRank < least then return left
              else
                match ← seen? ("is" :: "isnull" :: "notnull" :: "between" :: "in"
                    :: patternWords) with
                | some word => onward (← relation encoding fuel left false word)
                | none => return left

/-- Reads a relation of an operand by its word, which is the next token. -/
def relation (encoding : Encoding) :
    (fuel : Nat) → Expression → (isTurned : Bool) → (word : String) → Reading Expression
  | 0, _, _, _ => refuse
  | fuel + 1, left, isTurned, word => do
      let operand := within encoding fuel (equalityRank + 1) false
      let written := ((← upcoming).head?.map Token.raw).getD ""
      skip
      match word with
      | "isnull" => return .isNull left
      | "notnull" => return .opposite (.isNull left)
      | "is" =>
          let isTurned ← accepts "not"
          if ← accepts "distinct" then
            expect "from"
            return turned (!isTurned) (.same left (← operand))
          else return turned isTurned (.same left (← operand))
      | "between" =>
          let low ← within encoding fuel 0 true
          expect "and"
          let high ← operand
          return turned isTurned
            (.both (.compared .atLeast left low) (.compared .atMost left high))
      | "in" =>
          if ← accepts "(" then
            if (← seen? questionWords).isSome then
              let _ ← closeQuestion
              return .oneOf left (.ofList [question])
            else if ← accepts ")" then return .constant (.ofTruth (some isTurned))
            else
              let options ← arguments encoding fuel
              expect ")"
              return turned isTurned (.oneOf left options)
          else
            let _ ← name
            if ← accepts "." then
              let _ ← name
            if ← accepts "(" then
              if !(← sees ")") then
                let _ ← arguments encoding fuel
              expect ")"
            return .oneOf left (.ofList [question])
      | _ =>
          let pattern ← operand
          if ← accepts "escape" then
            let escape ← operand
            return turned isTurned (.call written (.ofList [pattern, left, escape]))
          else return turned isTurned (.call written (.ofList [pattern, left]))

def operand (encoding : Encoding) : (fuel : Nat) → Reading Expression
  | 0 => refuse
  | fuel + 1 => do
      let expression := within encoding fuel 0 false
      match (← upcoming).head? with
      | none => refuse
      | some next =>
          if next.isKey "(" then
            skip
            if (← seen? questionWords).isSome then closeQuestion
            else
              let inner ← expression
              if ← accepts "," then
                let _ ← arguments encoding fuel
                expect ")"
                return .outside "row values"
              else
                expect ")"
                return inner
          else if next.isKey "not" then
            skip
            return .opposite (← within encoding fuel oppositeRank false)
          else if next.isKey "-" then
            skip
            let isLeast := ((← upcoming).head?.map Token.raw) == some leastDigits
            let inner ← within encoding fuel signRank false
            return if isLeast then .constant (.integer (-Cell.integerLimit - 1)) else .negated inner
          else if next.isKey "+" then
            skip
            return .plus (← within encoding fuel signRank false)
          else if next.isKey "~" then
            skip
            return .complement (← within encoding fuel signRank false)
          else if next.isKey "cast" then
            skip
            expect "("
            let inner ← expression
            expect "as"
            let words ← type
            expect ")"
            return .cast (if words.isEmpty then .numeric else .ofType (" ".intercalate words)) inner
          else if next.isKey "case" then
            skip
            let subject? ← if ← sees "when" then pure none else some <$> expression
            if !(← sees "when") then refuse
            branches encoding fuel subject?
          else if next.isKey "exists" then
            skip
            expect "("
            if (← seen? questionWords).isSome then closeQuestion else refuse
          else if next.kind == .variable then
            skip
            return .outside "parameters"
          else if isTerm next && !(next.kind == .string && (← seesBehind ".")) then
            skip
            return term next
          else if next.isName then
            skip
            if ← accepts "." then
              let second ← name
              if ← accepts "." then return .qualified second (← name)
              else return .qualified next.value second
            else if next.kind != .string && (← accepts "(") then
              if ← accepts "*" then
                expect ")"
                return .call next.value .done
              else if ← accepts ")" then return .call next.value .done
              else
                if !(← accepts "distinct") then
                  let _ ← accepts "all"
                let inner ← arguments encoding fuel
                expect ")"
                return .call next.value inner
            else return .name next.raw
          else refuse

/-- Reads the branches of a choice, up to its end. -/
def branches (encoding : Encoding) : (fuel : Nat) → Option Expression → Reading Expression
  | 0, _ => refuse
  | fuel + 1, subject? => do
      let expression := within encoding fuel 0 false
      if ← accepts "when" then
        let written ← expression
        expect "then"
        let yes ← expression
        let no ← branches encoding fuel subject?
        let test := (subject?.map (fun subject => .compared .equal subject written)).getD written
        return .ifElse test yes no
      else if ← accepts "else" then
        let last ← expression
        expect "end"
        return last
      else
        expect "end"
        return .constant .null

/-- Reads expressions with commas between them. -/
def arguments (encoding : Encoding) : (fuel : Nat) → Reading Arguments
  | 0 => refuse
  | fuel + 1 => do
      let first ← within encoding fuel 0 false
      if ← accepts "," then return .more first (← arguments encoding fuel)
      else return .more first .done

end

def expression (encoding : Encoding) : Reading Expression := do
  within encoding (3 * (← length) + 3) 0 false

end Operations

end Phrase
end Likeness
