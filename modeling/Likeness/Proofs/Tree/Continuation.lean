import Likeness.Proofs.Json.RecordContinuation
import Likeness.Proofs.Tree.Document
import Mathlib.Data.List.Permutation
import Mathlib.Data.List.TakeWhile

/-!
# A tree's document ends where it ends

Reading a tree looks at nothing behind the closing bracket of its record.  So a text that is read as
a tree is still read as that tree when blanks are added behind it, and is refused when anything else
is.

**Main statements.**
* `Tree.stops_reader`: a tree is taken off the front of a text in the same way whatever follows.
* `Tree.parse_append`: the texts that can follow a document.
-/

namespace Likeness

open Json

section Whole

variable {α : Type} {reader : Nat → Reader α} {value : α}

theorem readWhole_eq_ok_iff {source : String} :
    readWhole reader source = .ok value ↔
      ∃ rest, reader (budgetFor source.toList) source.toList = .ok (value, rest) ∧
        skipBlank rest = [] := by
  constructor
  · intro read
    obtain ⟨⟨x, rest⟩, front, behind⟩ := bind_eq_ok (mapError_eq_ok read)
    dsimp only at behind
    split at behind
    · next blank =>
        cases behind
        exact ⟨rest, front, blank⟩
    · cases behind
  · rintro ⟨rest, front, blank⟩
    simp only [readWhole, front, blank, bind, Except.bind, Except.mapError]

theorem skipBlank_append_of_blank {s : List Char} (blank : skipBlank s = []) (t : List Char) :
    skipBlank (s ++ t) = skipBlank t := by
  rw [skipBlank, List.dropWhile_append, if_pos (by simpa [skipBlank] using blank), skipBlank]

theorem skipBlank_eq_nil_iff (s : List Char) :
    skipBlank s = [] ↔ ∀ c ∈ s, c ∈ [' ', '\t', '\n', '\r'] := by
  rw [skipBlank, List.dropWhile_eq_nil_iff]
  refine forall₂_congr fun c _ => ?_
  simp [isBlank, or_left_comm, or_assoc]

/-- What follows a whole text decides whether it is read, and not as what. -/
theorem readWhole_append (stops : ∀ tail {budget budget' : Nat}, budget ≤ budget' →
      Stops tail (reader budget) (reader budget'))
    {source : String} (read : readWhole reader source = .ok value) (more : String) :
    readWhole reader (source ++ more) =
      match skipBlank more.toList with
      | [] => .ok value
      | c :: rest =>
          .error (.ofFault (source ++ more).toList (.within .trailingText (c :: rest))) := by
  obtain ⟨rest, front, blank⟩ := readWhole_eq_ok_iff.1 read
  have grows : budgetFor source.toList ≤ budgetFor (source ++ more).toList := by
    rw [budgetFor, budgetFor, String.toList_append, List.length_append]
    omega
  have front' := stops more.toList grows _ _ _ front
  rw [← String.toList_append] at front'
  simp only [readWhole, front', skipBlank_append_of_blank blank, bind, Except.bind]
  cases skipBlank more.toList <;> rfl

end Whole

section Trees

variable (tail : List Char)

theorem Json.stopsBefore_text : StopsBefore tail text text :=
  Stops.before stops_text

theorem starved_read {α : Type} (layout : Layout α) (budget : Nat) (result : α × List Char) :
    layout.read budget [] ≠ .ok result :=
  nofun

theorem starved_listOf {α : Type} (item : Reader α) (budget : Nat)
    (result : List α × List Char) : listOf budget item [] ≠ .ok result :=
  nofun

theorem Position.stops_read {budget budget' : Nat} (le : budget ≤ budget') :
    Stops tail (Position.layout.read budget) (Position.layout.read budget') :=
  stops_record
    (.cons rfl rfl stopsBefore_naturalUpTo (.cons rfl rfl stopsBefore_naturalUpTo .none)) le _ _ _

theorem Position.stopsBefore_nullable {budget budget' : Nat} (le : budget ≤ budget') :
    StopsBefore tail (nullable (Position.layout.read budget))
      (nullable (Position.layout.read budget')) :=
  Json.stopsBefore_nullable (Position.stops_read tail le).before (starved_read _ _)

/-- The record of a node ends by itself if those of its children do. -/
theorem Tree.stops_read {child child' : Reader Tree} (stops : StopsBefore tail child child')
    {budget budget' : Nat} (le : budget ≤ budget') :
    Stops tail ((Tree.layout budget child).read budget)
      ((Tree.layout budget' child').read budget') := by
  have position := Position.stopsBefore_nullable tail le
  have children := stopsBefore_nullable (stops_listOf stops le).before (starved_listOf child budget)
  have members : (Tree.layout budget child).members.Extends tail
      (Tree.layout budget' child').members :=
    .cons rfl rfl (stopsBefore_text tail) <| .cons rfl rfl (stopsBefore_text tail) <|
      .cons rfl rfl position <| .cons rfl rfl position <| .cons rfl rfl children .none
  exact stops_record members le _ _ _

/-- By induction on the budget, which drops for each level of nesting. -/
theorem Tree.stops_reader {budget budget' : Nat} (le : budget ≤ budget') :
    Stops tail (Tree.reader budget) (Tree.reader budget') := by
  induction budget generalizing budget' with
  | zero => exact nofun
  | succ budget ih =>
      obtain ⟨budget', rfl⟩ := Nat.exists_eq_add_one_of_ne_zero (Nat.ne_zero_of_lt le)
      have le := Nat.le_of_succ_le_succ le
      exact Tree.stops_read tail (ih le).before le

end Trees

/-- A text that is read as a tree can be followed by blanks and by nothing else, and remains the
document of that tree. -/
theorem Tree.parse_append (source more : String) (tree : Tree)
    (read : Tree.parse source = .ok tree) :
    ((∃ tree', Tree.parse (source ++ more) = .ok tree') ↔
        ∀ c ∈ more.toList, c ∈ [' ', '\t', '\n', '\r']) ∧
      (∀ tree', Tree.parse (source ++ more) = .ok tree' → tree' = tree) ∧
      ((∃ c ∈ more.toList, c ∉ [' ', '\t', '\n', '\r']) →
        Tree.parse (source ++ more) =
          .error (.ofFault (source ++ more).toList
            (.within .trailingText (skipBlank more.toList)))) := by
  have whole := readWhole_append (fun tail _ _ le => Tree.stops_reader tail le) read more
  have other : (∃ c ∈ more.toList, c ∉ [' ', '\t', '\n', '\r']) ↔ skipBlank more.toList ≠ [] := by
    rw [ne_eq, skipBlank_eq_nil_iff]
    push Not
    rfl
  rw [← skipBlank_eq_nil_iff, other, Tree.parse, whole]
  cases skipBlank more.toList with
  | nil => simp
  | cons c rest => simp

/-- A node with an unknown member in front, an escaped quote in its kind, and a child that is
written as a list. -/
def scrawl : String :=
  "\x7b\"x\": [1.5e3, \x7b\"\\u0041\\n\": null\x7d],\n" ++
    "\"type\":\"a\\\"b\",\"children\":[[\"c\"]]\x7d "

theorem Tree.parse_scrawl :
    Tree.parse scrawl = .ok ⟨"a\"b", "", none, none, [Tree.leaf "c" ""]⟩ := by cbv

/-- Blanks can follow, and a second document cannot. -/
theorem Tree.parse_append_scrawl :
    (∃ tree, Tree.parse (scrawl ++ "\r\n") = .ok tree) ∧
      ¬ ∃ tree, Tree.parse (scrawl ++ " \x7b\"type\":\"a\"\x7d") = .ok tree := by
  have blanks := Tree.parse_append scrawl "\r\n" _ Tree.parse_scrawl
  have second := Tree.parse_append scrawl " \x7b\"type\":\"a\"\x7d" _ Tree.parse_scrawl
  exact ⟨blanks.1.2 (by simp), second.1.not.2 (by simp)⟩

end Likeness
