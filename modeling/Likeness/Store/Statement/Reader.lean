import Likeness.Store.Statement.Token

/-!
# Reading statements

A reader takes tokens off the front of a statement.  It fails at the first token that no
statement can have there, and names that token.

What is wrong with the meaning of what has been read is noted by `Reading.object`.  It counts
only if the statement can go on with its next token.
-/

namespace Likeness

/-- Why a statement is no definition. -/
inductive StatementFault
  /-- No statement goes on with this token. -/
  | near (token : String)
  /-- The statement ends too early. -/
  | unfinished
  | illegal (token : String)
  /-- The statement says what cannot be. -/
  | senseless (message : String)
deriving DecidableEq, Repr

def StatementFault.message : StatementFault → String
  | .near token => "near \"" ++ token ++ "\": syntax error"
  | .unfinished => "incomplete input"
  | .illegal token => "unrecognized token: \"" ++ token ++ "\""
  | .senseless message => message

/-- The rest of a statement. -/
structure Unread where
  tokens : List Token
  /-- What is wrong with the part in front of it. -/
  objection? : Option String

/-- A step that takes tokens off the front. -/
abbrev Reading (α : Type) : Type := StateT Unread (Except StatementFault) α

namespace Reading

variable {α : Type}

section Tokens

/-- The tokens to come. -/
def upcoming : Reading (List Token) :=
  return (← get).tokens

/-- The number of the tokens to come. -/
def length : Reading Nat :=
  return (← upcoming).length

/-- Fails at the next token. -/
def refuse : Reading α := do
  match ← upcoming with
  | [] => throw .unfinished
  | token :: _ => throw (if token.kind = .illegal then .illegal token.raw else .near token.raw)

/-- Notes what is wrong.  What was noted first stays. -/
def object (message : String) : Reading Unit :=
  modify (fun unread => { unread with objection? := unread.objection?.or message })

/-- Fails if something has been noted. -/
def settle : Reading Unit := do
  match (← get).objection? with
  | some message => throw (.senseless message)
  | none => return ()

/-- Takes the next token, with which the statement can go on. -/
def skip : Reading Unit := do
  settle
  modify (fun unread => { unread with tokens := unread.tokens.drop 1 })

/-- What a step makes of something.  What is wrong with the step is noted. -/
def adopt (value : α) (next : Except String α) : Reading α := do
  match next with
  | .ok next => return next
  | .error message =>
      object message
      return value

end Tokens

section Words

/-- Whether the next token is one of a certain sort. -/
def meets (accept : Token → Bool) : Reading Bool :=
  return ((← upcoming).head?).any accept

/-- Whether the next token is a given word or sign. -/
def sees (key : String) : Reading Bool :=
  meets (Token.isKey key)

/-- Whether a given word or sign stands behind the next token. -/
def seesBehind (key : String) : Reading Bool :=
  return ((← upcoming)[1]?).any (Token.isKey key)

/-- The one of some words that the next token is. -/
def seen? (keys : List String) : Reading (Option String) := do
  let next? := (← upcoming).head?
  return keys.find? (fun key => next?.any (Token.isKey key))

/-- Takes the next token if it is a given word or sign. -/
def accepts (key : String) : Reading Bool := do
  if ← sees key then
    skip
    return true
  else return false

/-- Takes a given word or sign. -/
def expect (key : String) : Reading Unit := do
  if ← accepts key then return () else refuse

/-- Takes a token of a certain sort. -/
def token (accept : Token → Bool) : Reading Token := do
  match (← upcoming).head? with
  | none => refuse
  | some token =>
      if accept token then
        skip
        return token
      else refuse

def name : Reading String :=
  return (← token Token.isName).value

/-- Takes one of some words. -/
def oneOf (keys : List String) : Reading String :=
  return (← token (fun token => keys.any (fun key => token.isKey key))).key

end Words

section Lists

/-- Takes one item, and more of them behind commas. -/
def listed (item : Reading α) : (fuel : Nat) → Reading (List α)
  | 0 => return []
  | fuel + 1 => do
      let first ← item
      if ← accepts "," then return first :: (← listed item fuel) else return [first]

/-- Takes items between parentheses. -/
def enclosed (item : Reading α) : Reading (List α) := do
  expect "("
  let items ← listed item (← length)
  expect ")"
  return items

/-- Takes what a step reads, and tells the tokens. -/
def quoting (step : Reading α) : Reading (α × List Token) := do
  let before ← upcoming
  let value ← step
  return (value, before.take (before.length - (← length)))

end Lists

end Reading
end Likeness
