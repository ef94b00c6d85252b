import Likeness.Json.Record
import Likeness.Json.Value
import Likeness.Tree.Walk

/-!
# Trees as JSON documents

A node is an object with a kind (`type`), a text, possibly two positions, and the list of
its children.  Only the kind has to be there: a missing text is empty, missing or `null`
positions are absent, and missing or `null` children are none.  `Tree.parse` reads a whole
text; `Tree.document` is the document of a tree, which leaves absent positions out and writes
everything else.

Trees may be nested to any depth.  `Tree.reader` goes down one level of its budget for each
level of nesting.
-/

namespace Likeness

open Json

namespace Position

/-- A position is its row and its column, of 32 bits each. -/
def layout : Layout Position :=
  ⟨"struct Position", [Nat, Nat],
    .cons ⟨"row", natural32, .fault⟩ (.cons ⟨"column", natural32, .fault⟩ .none),
    fun (row, column, ()) => ⟨row.toUInt32, column.toUInt32⟩⟩

def document (p : Position) : Value :=
  .object [("row", .natural p.row.toNat), ("column", .natural p.column.toNat)]

end Position

namespace Tree

/-- The members of a node whose children are read by `child`. -/
def layout (budget : Nat) (child : Reader Tree) : Layout Tree :=
  ⟨"struct AstNode", [String, String, Option Position, Option Position, Option (List Tree)],
    .cons ⟨"type", Json.text, .fault⟩
      (.cons ⟨"text", Json.text, .default ""⟩
        (.cons ⟨"startPosition", nullable (Position.layout.read budget), .default none⟩
          (.cons ⟨"endPosition", nullable (Position.layout.read budget), .default none⟩
            (.cons ⟨"children", nullable (listOf budget child), .default none⟩ .none)))),
    fun (kind, text, start?, stop?, children?, ()) =>
      ⟨kind, text, start?, stop?, children?.getD []⟩⟩

/-- Reads a tree that is nested at most as deep as the budget says. -/
def reader : Nat → Reader Tree
  | 0, s => .error (.within .noValue s)
  | budget + 1, s => (layout budget (reader budget)).read budget s

/-- Reads a text that holds one tree. -/
def parse (source : String) : Except Rejection Tree :=
  readWhole reader source

end Tree

section Writing

def positionMembers (name : String) : Option Position → List (String × Value)
  | none => []
  | some p => [(name, p.document)]

mutual

def Tree.document : Tree → Value
  | ⟨kind, text, start?, stop?, children⟩ =>
      .object
        (("type", .text kind) :: ("text", .text text) ::
          (positionMembers "startPosition" start? ++ positionMembers "endPosition" stop?
            ++ [("children", .list (Forest.documents children))]))

def Forest.documents : List Tree → List Value
  | [] => []
  | tree :: rest => tree.document :: Forest.documents rest

end

end Writing

/-- What is wrong with a tree that has a node without a kind. -/
def Tree.flaw? (tree : Tree) : Option String :=
  tree.unnamed?.map
    (fun k => "node at post-order position " ++ toString k ++ " has an empty type")

end Likeness
