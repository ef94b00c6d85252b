import Likeness.Json.Shape

/-!
# Readers of records

A record is written as an object, in any order and with further members that are passed
over, or as the list of its members in the order of their declaration.

`Members` lists the declared members with their types; `Slots` holds what has been read of
them, and `Values` is the complete record.  A `Layout` adds the name of the record and the
function that builds the value of interest.

* In an object, a member may come only once.  One that is missing is taken from its
  `Absent` entry or is a fault, the first one in order of declaration.
* In a list, only members with a `default` may be missing, and only from its end.
* Faults of the record as a whole are placed behind its closing bracket.
-/

namespace Likeness
namespace Json

/-- What a missing member means. -/
inductive Absent (α : Type)
  /-- It is a fault. -/
  | fault
  /-- It has a value in an object, and is a fault in a list. -/
  | unwritten (value : α)
  /-- It has a value in both. -/
  | default (value : α)

/-- A declared member. -/
structure Member (α : Type) where
  name : String
  read : Reader α
  absent : Absent α

/-- The declared members of a record, with their types. -/
inductive Members : List Type → Type 1
  | none : Members []
  | cons {α : Type} {types : List Type} (member : Member α) (rest : Members types) :
      Members (α :: types)

/-- What has been read of a record. -/
def Slots : List Type → Type
  | [] => Unit
  | α :: types => Option α × Slots types

/-- The members of a complete record. -/
def Values : List Type → Type
  | [] => Unit
  | α :: types => α × Values types

namespace Members

/-- Number of declared members. -/
def length {types : List Type} : Members types → Nat
  | .none => 0
  | .cons _ rest => rest.length + 1

/-- Nothing has been read. -/
def empty {types : List Type} : Members types → Slots types
  | .none => ()
  | .cons _ rest => (Option.none, rest.empty)

/-- What to do about a member of an object. -/
inductive Step (σ : Type)
  /-- It is not declared. -/
  | unknown
  /-- It has been read before. -/
  | repeated
  /-- Its value is read into the slots. -/
  | read (reader : Reader σ)

/-- The step for a member's name. -/
def step {types : List Type} (name : String) :
    Members types → Slots types → Step (Slots types)
  | .none, _ => .unknown
  | .cons member rest, (slot, slots) =>
      if member.name = name then
        match slot with
        | some _ => .repeated
        | Option.none =>
            .read (fun s => (member.read s).map (fun (value, s) => ((some value, slots), s)))
      else
        match rest.step name slots with
        | .unknown => .unknown
        | .repeated => .repeated
        | .read reader =>
            .read (fun s => (reader s).map (fun (slots, s) => ((slot, slots), s)))

/-- The complete record, or the name of the first member that is missing. -/
def complete {types : List Type} :
    Members types → Slots types → Except String (Values types)
  | .none, _ => .ok ()
  | .cons member rest, (slot, slots) =>
      let value : Except String _ := match slot, member.absent with
        | some value, _ => .ok value
        | Option.none, .fault => .error member.name
        | Option.none, .unwritten value => .ok value
        | Option.none, .default value => .ok value
      value.bind (fun value => (rest.complete slots).map (fun values => (value, values)))

/-- A list of members, up to the closing bracket or to the end of the declared members.
`given` members have been read before; a failure without a place is the number of members
that were there. -/
def inOrder {types : List Type} (given : Nat) (first : Bool) :
    Members types → List Char → Except (Fault ⊕ (Nat × List Char)) (Values types × List Char)
  | .none, s => .ok ((), s)
  | .cons member rest, s =>
      match nextElement first s with
      | .error fault => .error (.inl fault)
      | .ok (true, s) =>
          match member.read s with
          | .error fault => .error (.inl fault)
          | .ok (value, s) =>
              (rest.inOrder (given + 1) false s).map
                (fun (values, s) => ((value, values), s))
      | .ok (false, s) =>
          match member.absent with
          | .default value =>
              (rest.inOrder (given + 1) first s).map
                (fun (values, s) => ((value, values), s))
          | _ => .error (.inr (given, s))

end Members

/-- A record: its name in messages, its members, and what is built from them. -/
structure Layout (α : Type) where
  title : String
  types : List Type
  members : Members types
  build : Values types → α

namespace Layout

variable {α : Type}

/-- Behind the last member of a list. -/
def closeList (s : List Char) : Except Fault (List Char) :=
  match skipBlank s with
  | ']' :: rest => .ok rest
  | ',' :: rest =>
      match skipBlank rest with
      | ']' :: rest => .error (.within .trailingComma (']' :: rest))
      | rest => .error (.within .trailingText rest)
  | [] => .error (.within .endInList [])
  | s => .error (.within .trailingText s)

/-- A record written as a list, behind the opening bracket. -/
def readList (layout : Layout α) : Reader α := fun s =>
  match layout.members.inOrder 0 true s with
  | .error (.inl fault) => .error fault
  | .error (.inr (given, s)) =>
      .error (.before
        (.wrongLength given
          (layout.title ++ " with " ++ toString layout.members.length ++ " elements"))
        (s.drop 1))
  | .ok (values, s) => (closeList s).map (fun rest => (layout.build values, rest))

/-- Whether another member follows, and the text behind its opening quote or from the
closing brace on. -/
def nextMember (first : Bool) (s : List Char) : Except Fault (Bool × List Char) :=
  match skipBlank s with
  | [] => .error (.within .endInObject [])
  | '\x7d' :: rest => .ok (false, '\x7d' :: rest)
  | c :: rest =>
      if first then
        if c = '"' then .ok (true, rest) else .error (.within .keyNoText (c :: rest))
      else if c = ',' then
        match skipBlank rest with
        | '"' :: rest => .ok (true, rest)
        | '\x7d' :: rest => .error (.within .trailingComma ('\x7d' :: rest))
        | [] => .error (.within .endInValue [])
        | s => .error (.within .keyNoText s)
      else .error (.within .noObjectEnd (c :: rest))

/-- The fault of a member that comes again: it lies behind the name and the blanks that
follow, and behind a closing brace if one stands there. -/
def repeatFault (name : String) (s : List Char) : Fault :=
  match skipBlank s with
  | '\x7d' :: rest => .before (.repeatedMember name) rest
  | s => .before (.repeatedMember name) s

/-- The members of an object up to its brace. -/
def readMembers {types : List Type} (members : Members types) :
    Nat → Bool → Slots types → Reader (Slots types)
  | 0, _, _, s => .error (.within .noValue s)
  | budget + 1, first, slots, s => do
      let (more, s) ← nextMember first s
      if more then
        let (name, s) ← textBody [] s
        match members.step name slots with
        | .repeated => .error (repeatFault name s)
        | .unknown =>
            let s ← (colon s).bind (skipValue budget)
            readMembers members budget false slots s
        | .read reader =>
            let s ← colon s
            let (slots, s) ← reader s
            readMembers members budget false slots s
      else .ok (slots, s.drop 1)

/-- A record written as an object, behind the opening brace. -/
def readObject (layout : Layout α) (budget : Nat) : Reader α := fun s =>
  match readMembers layout.members budget true layout.members.empty s with
  | .error fault => .error fault
  | .ok (slots, rest) =>
      match layout.members.complete slots with
      | .error name => .error (.before (.missingMember name) rest)
      | .ok values => .ok (layout.build values, rest)

/-- A record in either form. -/
def read (layout : Layout α) (budget : Nat) : Reader α := fun s =>
  match skipBlank s with
  | '[' :: rest => layout.readList rest
  | '\x7b' :: rest => layout.readObject budget rest
  | s => .error (reject layout.title s)

end Layout

section Whole

variable {α : Type}

/-- A budget that no text of this length can use up. -/
def budgetFor (s : List Char) : Nat :=
  s.length + 2

/-- Reads a whole text: one value, and nothing but blanks behind it. -/
def readWhole (reader : Nat → Reader α) (source : String) : Except Rejection α :=
  let s := source.toList
  let result := do
    let (value, rest) ← reader (budgetFor s) s
    match skipBlank rest with
    | [] => Except.ok value
    | rest => .error (Fault.within .trailingText rest)
  result.mapError (Rejection.ofFault s)

end Whole

end Json
end Likeness
