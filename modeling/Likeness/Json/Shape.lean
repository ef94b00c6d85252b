import Likeness.Json.Skip

/-!
# Readers of typed values

A typed reader knows what is due.  When another value stands there, it reads that value as
far as is needed to name it: numbers, texts and fixed words are read to their end, and a
list or an object is named by its bracket alone.

`listOf` and `choice` are the readers of lists and of named alternatives; `nextElement`
decides whether another element follows, for lists and for records written as lists.
-/

namespace Likeness
namespace Json

section Rejecting

/-- The fault of a value that stands where something else is due. -/
def reject (expected : String) (s : List Char) : Fault :=
  let wrong (found : Found) : Except Fault (List Char) → Fault
    | .error fault => fault
    | .ok rest => .before (.wrongType found expected) rest
  let wrongNumber : Except Fault (Number × List Char) → Fault
    | .error fault => fault
    | .ok (n, rest) => .before (.wrongType n.found expected) rest
  match s with
  | [] => .within .endInValue []
  | 'n' :: rest => wrong .null (word ['u', 'l', 'l'] rest)
  | 't' :: rest => wrong (.flag true) (word ['r', 'u', 'e'] rest)
  | 'f' :: rest => wrong (.flag false) (word ['a', 'l', 's', 'e'] rest)
  | '"' :: rest =>
      match textBody [] rest with
      | .error fault => fault
      | .ok (found, rest) => .before (.wrongType (.text found) expected) rest
  | '[' :: rest => .before (.wrongType .sequence expected) ('[' :: rest)
  | '\x7b' :: rest => .before (.wrongType .map expected) ('\x7b' :: rest)
  | '-' :: rest => wrongNumber (number ('-' :: rest))
  | c :: rest =>
      if isDigit c then wrongNumber (number (c :: rest))
      else .within .noValue (c :: rest)

end Rejecting

section Simple

def text : Reader String := fun s =>
  match skipBlank s with
  | '"' :: rest => textBody [] rest
  | s => .error (reject "a string" s)

def flag : Reader Bool := fun s =>
  match skipBlank s with
  | 't' :: rest => (word ['r', 'u', 'e'] rest).map (fun rest => (true, rest))
  | 'f' :: rest => (word ['a', 'l', 's', 'e'] rest).map (fun rest => (false, rest))
  | s => .error (reject "a boolean" s)

def unit : Reader Unit := fun s =>
  match skipBlank s with
  | 'n' :: rest => (word ['u', 'l', 'l'] rest).map (fun rest => ((), rest))
  | s => .error (reject "unit" s)

def startsNumber : List Char → Bool
  | c :: _ => c = '-' || isDigit c
  | [] => false

/-- A natural number up to a limit. -/
def naturalUpTo (limit : Nat) (expected : String) : Reader Nat := fun s =>
  let s := skipBlank s
  if startsNumber s then
    match number s with
    | .error fault => .error fault
    | .ok (.integer (.ofNat n), rest) =>
        if n ≤ limit then .ok (n, rest)
        else .error (.before (.wrongValue (.integer n) expected) rest)
    | .ok (.integer n, rest) => .error (.before (.wrongValue (.integer n) expected) rest)
    | .ok (.real x, rest) => .error (.before (.wrongType (.real x) expected) rest)
  else .error (reject expected s)

/-- A natural number of 32 bits. -/
def natural32 : Reader Nat :=
  naturalUpTo (2 ^ 32 - 1) "u32"

/-- A natural number of 64 bits. -/
def natural64 : Reader Nat :=
  naturalUpTo (2 ^ 64 - 1) "u64"

/-- A count or an index, of 64 bits. -/
def count : Reader Nat :=
  naturalUpTo (2 ^ 64 - 1) "usize"

/-- A double precision number. -/
def real : Reader Binary64 := fun s =>
  let s := skipBlank s
  if startsNumber s then
    match number s with
    | .error fault => .error fault
    | .ok (.integer (.ofNat n), rest) => .ok (.ofNat n, rest)
    | .ok (.integer n, rest) => .ok (.ofFloat (-(Float.ofNat n.natAbs)), rest)
    | .ok (.real x, rest) => .ok (x, rest)
  else .error (reject "f64" s)

end Simple

section Compound

variable {α : Type}

/-- Either `null` or a value. -/
def nullable (item : Reader α) : Reader (Option α) := fun s =>
  match skipBlank s with
  | 'n' :: rest => (word ['u', 'l', 'l'] rest).map (fun rest => (none, rest))
  | s => (item s).map (fun (value, rest) => (some value, rest))

/-- Whether another element follows, and the text from that element or from the closing
bracket on. -/
def nextElement (first : Bool) (s : List Char) : Except Fault (Bool × List Char) :=
  match skipBlank s with
  | [] => .error (.within .endInList [])
  | ']' :: rest => .ok (false, ']' :: rest)
  | c :: rest =>
      if first then .ok (true, c :: rest)
      else if c = ',' then
        match skipBlank rest with
        | [] => .error (.within .endInValue [])
        | ']' :: rest => .error (.within .trailingComma (']' :: rest))
        | s => .ok (true, s)
      else .error (.within .noListEnd (c :: rest))

/-- The elements of a list up to its bracket; `taken` holds those so far, last first. -/
def elements (item : Reader α) : Nat → Bool → List α → Reader (List α)
  | 0, _, _, s => .error (.within .noValue s)
  | budget + 1, first, taken, s =>
      match nextElement first s with
      | .error fault => .error fault
      | .ok (false, s) => .ok (taken.reverse, s.drop 1)
      | .ok (true, s) =>
          match item s with
          | .error fault => .error fault
          | .ok (value, s) => elements item budget false (value :: taken) s

def listOf (budget : Nat) (item : Reader α) : Reader (List α) := fun s =>
  match skipBlank s with
  | '[' :: rest => elements item budget true [] rest
  | s => .error (reject "a sequence" s)

def named (choices : List (String × α)) (name : String) (rest : List Char) :
    Except Fault (α × List Char) :=
  match choices.lookup name with
  | some value => .ok (value, rest)
  | none => .error (.before (.unknownChoice name (choices.map Prod.fst)) rest)

/-- The name of an alternative, from where an object is open. -/
def choiceName : Reader String
  | '"' :: rest => textBody [] rest
  | [] => .error (.within .endInValue [])
  | '\x7d' :: rest => .error (.within .noValue ('\x7d' :: rest))
  | s => .error (.within .keyNoText s)

/-- One of several named alternatives: its name, or an object with its name before
`null`. -/
def choice (choices : List (String × α)) : Reader α := fun s =>
  match skipBlank s with
  | [] => .error (.within .endInValue [])
  | '"' :: rest => do
      let (name, rest) ← textBody [] rest
      named choices name rest
  | '\x7b' :: rest => do
      let (name, rest) ← choiceName (skipBlank rest)
      let (value, rest) ← named choices name rest
      let rest ← colon rest
      let ((), rest) ← unit rest
      match skipBlank rest with
      | '\x7d' :: rest => .ok (value, rest)
      | [] => .error (.before .endInObject [])
      | rest => .error (.before .noValue rest)
  | s => .error (.within .noValue s)

end Compound

end Json
end Likeness
