import Likeness.Proofs.Json.Number
import Likeness.Proofs.Json.Record
import Likeness.Tree.Document

/-!
# Trees are read back from their documents

The document of a tree is written without blanks and read again to the same tree: texts through
their escapes, positions through their digits, absent positions because they are left out, and
children to any depth.  A level of nesting takes a brace, so that the length of the text is budget
enough.

**Main statements.**
* `Position.read_document`: a position is read back.
* `Tree.reader_document`: a tree is read back with any budget above the length of the text.
* `Tree.parse_compact`: a whole text is.
-/

namespace Likeness

open Json

section Positions

theorem endsNumeral_comma (rest : List Char) : EndsNumeral (',' :: rest) := by
  rintro c ⟨⟩
  decide

theorem endsNumeral_brace (rest : List Char) : EndsNumeral ('\x7d' :: rest) := by
  rintro c ⟨⟩
  decide

theorem natural32_written {n : Nat} {tail : List Char} (fits : n < 2 ^ 32)
    (ends : EndsNumeral tail) : natural32 ((Value.natural n).write tail) = .ok (n, tail) :=
  naturalUpTo_toString (by omega) (by decide) ends

/-- A position is read back. -/
theorem Position.read_document (p : Position) (limit : Nat) (tail : List Char)
    (enough : (p.document.write tail).length < limit) :
    Position.layout.read limit (p.document.write tail) = .ok (p, tail) := by
  have column : Fills limit Position.layout.members false (some p.row.toNat, none, ())
      (writeMembers [("column", .natural p.column.toNat)] ('\x7d' :: tail))
      (some p.row.toNat, some p.column.toNat, ()) tail :=
    Fills.member
      (fun _ => .there (by decide)
        (.here (natural32_written p.column.toNat_lt (endsNumeral_brace tail))))
      (Fills.close false _ tail)
  have row : Fills limit Position.layout.members true Position.layout.members.empty
      (writeText "row" (':' :: (Value.natural p.row.toNat).write
        (writeMembers [("column", .natural p.column.toNat)] ('\x7d' :: tail))))
      (some p.row.toNat, some p.column.toNat, ()) tail :=
    Fills.firstMember
      (fun _ => .here (natural32_written p.row.toNat_lt (endsNumeral_comma _))) column
  have complete : Position.layout.members.complete (some p.row.toNat, some p.column.toNat, ()) =
      .ok (p.row.toNat, p.column.toNat, ()) := rfl
  refine (row.read complete (Nat.lt_of_succ_lt enough)).trans ?_
  simp [Position.layout]

end Positions

section Nodes

/-- What starts with a bracket or a brace is not the word for nothing. -/
theorem nullable_of_read {α : Type} {item : Reader α} {s rest : List Char} {value : α}
    (opens : s.head? = some '[' ∨ s.head? = some '\x7b') (read : item s = .ok (value, rest)) :
    nullable item s = .ok (some value, rest) := by
  cases s with
  | nil => simp at opens
  | cons c s =>
      simp only [List.head?_cons, Option.some.injEq] at opens
      rcases opens with rfl | rfl <;> exact congrArg (Except.map _) read

theorem head?_write_list (items : List Value) (tail : List Char) :
    ((Value.list items).write tail).head? = some '[' := by
  cases items <;> rfl

theorem writeMembers_concat (left right : List (String × Value)) (tail : List Char) :
    writeMembers (left ++ right) tail = writeMembers left (writeMembers right tail) := by
  induction left with
  | nil => rfl
  | cons member left ih => rw [List.cons_append, writeMembers, writeMembers, ih]

theorem Forest.documents_eq (forest : List Tree) :
    Forest.documents forest = forest.map Tree.document := by
  induction forest with
  | nil => rfl
  | cons tree rest ih => rw [Forest.documents, ih, List.map_cons]

/-- The text of a tree behind its opening brace, one member after the other. -/
theorem Tree.document_write (tree : Tree) (tail : List Char) :
    tree.document.write tail =
      '\x7b' :: writeText "type" (':' :: (Value.text tree.kind).write
        (writeMembers [("text", .text tree.text)]
          (writeMembers (positionMembers "startPosition" tree.start?)
            (writeMembers (positionMembers "endPosition" tree.stop?)
              (writeMembers [("children", .list (tree.children.map Tree.document))]
                ('\x7d' :: tail)))))) := by
  cases tree with
  | mk kind text start? stop? children =>
      simp only [Tree.document, Value.write, Forest.documents_eq, writeMembers,
        writeMembers_concat]

/-- A position that is absent leaves its slot empty. -/
theorem Fills.position {limit : Nat} {types : List Type} {members : Members types}
    {filled : Slots types} {name : String} {position? : Option Position} {tail rest : List Char}
    (slots : Option (Option Position) → Slots types)
    (takes : ∀ p : Position, (p.document.write tail).length < limit →
      Takes members name (slots none) (p.document.write tail) (slots (some (some p))) tail)
    (others : Fills limit members false (slots (position?.map some)) tail filled rest) :
    Fills limit members false (slots none) (writeMembers (positionMembers name position?) tail)
      filled rest := by
  cases position? with
  | none => exact others
  | some p => exact Fills.member (takes p) others

/-- A position that may be missing is read where it is not. -/
theorem nullable_position (p : Position) {limit : Nat} {tail : List Char}
    (enough : (p.document.write tail).length < limit) :
    nullable (Position.layout.read limit) (p.document.write tail) = .ok (some p, tail) :=
  nullable_of_read (Or.inr rfl) (p.read_document limit tail enough)

end Nodes

section Trees

def nodeSlots (kind? text? : Option String) (start? stop? : Option (Option Position))
    (children? : Option (Option (List Tree))) :
    Slots [String, String, Option Position, Option Position, Option (List Tree)] :=
  (kind?, text?, start?, stop?, children?, ())

/-- A tree is read back if its children are. -/
theorem Tree.read_document {tree : Tree} {limit : Nat}
    (below : ∀ child ∈ tree.children, ∀ tail, (child.document.write tail).length < limit →
      Tree.reader limit (child.document.write tail) = .ok (child, tail))
    (tail : List Char) (enough : (tree.document.write tail).length ≤ limit) :
    (Tree.layout limit (Tree.reader limit)).read limit (tree.document.write tail) =
      .ok (tree, tail) := by
  have opens : ∀ (child : Tree) tail, ∃ rest, child.document.write tail = '\x7b' :: rest :=
    fun child tail => ⟨_, child.document_write tail⟩
  rw [Tree.document_write] at enough ⊢
  have complete : (Tree.layout limit (Tree.reader limit)).members.complete
      (nodeSlots (some tree.kind) (some tree.text) (tree.start?.map some) (tree.stop?.map some)
        (some (some tree.children))) =
      .ok (tree.kind, tree.text, tree.start?, tree.stop?, some tree.children, ()) := by
    cases tree.start? <;> cases tree.stop? <;> rfl
  have built : (Tree.layout limit (Tree.reader limit)).build
      (tree.kind, tree.text, tree.start?, tree.stop?, some tree.children, ()) = tree := by
    cases tree; rfl
  -- the record is built from the slots that the members fill one by one
  suffices fills : Fills limit _ true _ _ _ tail by rw [Fills.read fills complete enough, built]
  refine Fills.firstMember (fun _ => .here (text_writeText tree.kind _)) ?_
  refine Fills.member (fun _ => .there (by simp) (.here (text_writeText tree.text _))) ?_
  refine Fills.position (fun start => nodeSlots (some tree.kind) (some tree.text) start none none)
    (fun p inside => .there (by simp) (.there (by simp) (.here (nullable_position p inside)))) ?_
  refine Fills.position
    (fun stop => nodeSlots (some tree.kind) (some tree.text) (tree.start?.map some) stop none)
    (fun p inside => .there (by simp) (.there (by simp) (.there (by simp)
      (.here (nullable_position p inside))))) ?_
  refine Fills.member (fun inside => ?_) (Fills.close false _ tail)
  have list := listOf_written opens tree.children below ('\x7d' :: tail) inside
  exact .there (by simp) (.there (by simp) (.there (by simp) (.there (by simp)
    (.here (nullable_of_read (Or.inl (head?_write_list _ _)) list)))))

/-- A tree is read back whatever follows it, with any budget above the length of the text.  By
induction on the tree: each level of nesting takes a brace off the text and one off the budget. -/
theorem Tree.reader_document (tree : Tree) (budget : Nat) (tail : List Char)
    (enough : (tree.document.write tail).length < budget) :
    Tree.reader budget (tree.document.write tail) = .ok (tree, tail) := by
  cases budget with
  | zero => exact absurd enough (Nat.not_lt_zero _)
  | succ budget =>
      refine Tree.read_document ?_ tail (Nat.le_of_lt_succ enough)
      intro child mem tail enough
      exact Tree.reader_document child budget tail enough
termination_by tree.size
decreasing_by exact Tree.size_lt_of_mem mem

end Trees

/-- The compact document of a tree is read as the same tree, whatever its texts and positions are
and however deep it is nested. -/
theorem Tree.parse_compact (tree : Tree) : Tree.parse tree.document.compact = .ok tree := by
  have whole := Tree.reader_document tree (budgetFor (tree.document.write [])) []
    (Nat.lt_add_of_pos_right (by decide))
  have ended : skipBlank [] = [] := rfl
  simp only [Tree.parse, readWhole, Value.compact, String.toList_ofList, whole, ended, bind,
    Except.bind, Except.mapError]

end Likeness
