import Likeness.Json.Record
import Likeness.Proofs.Json.Text

/-!
# Written lists and objects are read back part by part

Whatever is written stands in front of the text that follows, and the names, brackets and commas
each take a character of their own.  So a budget above the length of the text is never used up.
`Fills` says what the members of an object come to with any such budget.

**Main statements.**
* `Value.length_le_write`: a document does not take anything off the text behind it.
* `Fills.close`, `Fills.member`, `Fills.firstMember`: the closing brace, and one member more.
* `Fills.read`: what the members come to is the record.
* `listOf_written`: a list is read back if each of its elements is.
-/

namespace Likeness
namespace Json

section Lengths

theorem length_lt_writeBody (cs tail : List Char) : tail.length < (writeBody cs tail).length := by
  induction cs with
  | nil => exact Nat.lt_succ_self _
  | cons c cs ih =>
      rw [writeBody, List.length_append]
      omega

theorem length_lt_writeText (s : String) (tail : List Char) :
    tail.length < (writeText s tail).length :=
  Nat.lt_trans (length_lt_writeBody s.toList tail) (Nat.lt_succ_self _)

mutual

/-- A document does not take anything off the text behind it. -/
theorem Value.length_le_write (value : Value) (tail : List Char) :
    tail.length ≤ (value.write tail).length := by
  match value with
  | .null | .flag _ | .natural _ | .real _ =>
      rw [Value.write, writeAtom, List.length_append]
      exact Nat.le_add_left _ _
  | .text s => exact Nat.le_of_lt (length_lt_writeText s tail)
  | .list [] | .object [] =>
      simp only [Value.write, List.length_cons]
      omega
  | .list (item :: items) =>
      have behind := length_le_writeItems items (']' :: tail)
      have front := Value.length_le_write item (writeItems items (']' :: tail))
      simp only [Value.write, List.length_cons] at *
      omega
  | .object ((name, value) :: members) =>
      have behind := length_le_writeMembers members ('\x7d' :: tail)
      have front := Value.length_le_write value (writeMembers members ('\x7d' :: tail))
      have title := length_lt_writeText name
        (':' :: value.write (writeMembers members ('\x7d' :: tail)))
      simp only [Value.write, List.length_cons] at *
      omega

theorem length_le_writeItems (items : List Value) (tail : List Char) :
    tail.length ≤ (writeItems items tail).length := by
  match items with
  | [] => exact Nat.le_refl _
  | item :: items =>
      have behind := length_le_writeItems items tail
      have front := Value.length_le_write item (writeItems items tail)
      simp only [writeItems, List.length_cons]
      omega

theorem length_le_writeMembers (members : List (String × Value)) (tail : List Char) :
    tail.length ≤ (writeMembers members tail).length := by
  match members with
  | [] => exact Nat.le_refl _
  | (name, value) :: members =>
      have behind := length_le_writeMembers members tail
      have front := Value.length_le_write value (writeMembers members tail)
      have title := length_lt_writeText name (':' :: value.write (writeMembers members tail))
      simp only [writeMembers, List.length_cons] at *
      omega

end

end Lengths

section Objects

/-- A member of this name is due, and its value on this text fills its slot. -/
def Takes {types : List Type} (members : Members types) (name : String) (slots : Slots types)
    (s : List Char) (filled : Slots types) (rest : List Char) : Prop :=
  ∃ reader, members.step name slots = .read reader ∧ reader s = .ok (filled, rest)

section Declared

variable {α : Type} {types : List Type} {member : Member α} {others : Members types}
  {slots filled : Slots types} {s rest : List Char}

theorem Takes.here {value : α} (read : member.read s = .ok (value, rest)) :
    Takes (.cons member others) member.name (none, slots) s (some value, slots) rest := by
  refine ⟨_, if_pos rfl, ?_⟩
  exact congrArg (Except.map _) read

theorem Takes.there {name : String} {slot : Option α} (other : member.name ≠ name)
    (takes : Takes others name slots s filled rest) :
    Takes (.cons member others) name (slot, slots) s (slot, filled) rest := by
  obtain ⟨reader, step, read⟩ := takes
  refine ⟨fun s => (reader s).map (fun filled => ((slot, filled.1), filled.2)), ?_, ?_⟩
  · simp only [Members.step, if_neg other, step]
  · exact congrArg (Except.map _) read

end Declared

variable {limit : Nat} {types : List Type} {members : Members types}
  {slots between filled : Slots types} {name : String} {value : Value} {tail rest : List Char}

/-- The members on this text, if it is shorter than the limit, are read to the end with these
slots, and the rest is left. -/
def Fills (limit : Nat) (members : Members types) (first : Bool) (slots : Slots types)
    (s : List Char) (filled : Slots types) (rest : List Char) : Prop :=
  s.length < limit → ∀ budget, s.length < budget →
    Layout.readMembers members budget first slots s = .ok (filled, rest)

theorem Fills.close (first : Bool) (slots : Slots types) (tail : List Char) :
    Fills limit members first slots ('\x7d' :: tail) slots tail := by
  intro _ budget enough
  cases budget with
  | zero => exact absurd enough (Nat.not_lt_zero _)
  | succ budget => rfl

/-- One member in front of others, if it starts like this. -/
theorem Fills.next {first : Bool} {s : List Char}
    (starts : Layout.nextMember first s =
      .ok (true, writeBody name.toList (':' :: value.write tail)))
    (shorter : (value.write tail).length < s.length)
    (takes : (value.write tail).length < limit →
      Takes members name slots (value.write tail) between tail)
    (others : Fills limit members false between tail filled rest) :
    Fills limit members first slots s filled rest := by
  intro inside budget enough
  have front := value.length_le_write tail
  obtain ⟨reader, step, read⟩ := takes (by omega)
  cases budget with
  | zero => exact absurd enough (Nat.not_lt_zero _)
  | succ budget =>
      have colon : Json.colon (':' :: value.write tail) = .ok (value.write tail) := rfl
      simp only [Layout.readMembers, starts, textBody_written, step, colon, read, bind,
        Except.bind, if_true]
      exact others (by omega) budget (by omega)

theorem Fills.firstMember
    (takes : (value.write tail).length < limit →
      Takes members name slots (value.write tail) between tail)
    (others : Fills limit members false between tail filled rest) :
    Fills limit members true slots (writeText name (':' :: value.write tail)) filled rest := by
  refine Fills.next rfl ?_ takes others
  have title := length_lt_writeText name (':' :: value.write tail)
  simp only [List.length_cons] at title
  omega

theorem Fills.member
    (takes : (value.write tail).length < limit →
      Takes members name slots (value.write tail) between tail)
    (others : Fills limit members false between tail filled rest) :
    Fills limit members false slots (writeMembers [(name, value)] tail) filled rest := by
  refine Fills.next rfl ?_ takes others
  have title := length_lt_writeText name (':' :: value.write tail)
  simp only [writeMembers, List.length_cons] at *
  omega

/-- An object is read as the record that its members come to. -/
theorem Fills.read {α : Type} {layout : Layout α} {filled : Slots layout.types}
    {values : Values layout.types} {s : List Char}
    (fills : Fills limit layout.members true layout.members.empty s filled rest)
    (complete : layout.members.complete filled = .ok values) (enough : s.length < limit) :
    layout.read limit ('\x7b' :: s) = .ok (layout.build values, rest) := by
  have opened : skipBlank ('\x7b' :: s) = '\x7b' :: s := rfl
  simp only [Layout.read, opened, Layout.readObject, fills enough limit enough, complete]

end Objects

section Lists

variable {α : Type} {document : α → Value} {item : Reader α} {limit : Nat}

/-- One element in front of others. -/
theorem elements_of_next {x : α} {taken : List α} {s s' rest : List Char} {first : Bool}
    (budget : Nat) (next : nextElement first s = .ok (true, s')) (read : item s' = .ok (x, rest)) :
    elements item (budget + 1) first taken s = elements item budget false (x :: taken) rest := by
  simp only [elements, next, read]

/-- Behind an element the others are read up to the bracket. -/
theorem elements_writeItems (opens : ∀ x tail, ∃ rest, (document x).write tail = '\x7b' :: rest)
    (xs : List α)
    (read : ∀ x ∈ xs, ∀ tail, ((document x).write tail).length < limit →
      item ((document x).write tail) = .ok (x, tail))
    (budget : Nat) (taken : List α) (tail : List Char)
    (inside : (writeItems (xs.map document) (']' :: tail)).length < limit)
    (enough : (writeItems (xs.map document) (']' :: tail)).length < budget) :
    elements item budget false taken (writeItems (xs.map document) (']' :: tail)) =
      .ok (taken.reverse ++ xs, tail) := by
  induction xs generalizing budget taken with
  | nil =>
      cases budget with
      | zero => exact absurd enough (Nat.not_lt_zero _)
      | succ budget => rw [List.append_nil]; rfl
  | cons x xs ih =>
      cases budget with
      | zero => exact absurd enough (Nat.not_lt_zero _)
      | succ budget =>
          rw [List.map_cons, writeItems, List.length_cons] at inside enough
          have front := (document x).length_le_write (writeItems (xs.map document) (']' :: tail))
          have here := read x List.mem_cons_self (writeItems (xs.map document) (']' :: tail))
            (by omega)
          have others := ih (fun y hy => read y (List.mem_cons_of_mem _ hy)) budget (x :: taken)
            (by omega) (by omega)
          obtain ⟨rest, opened⟩ := opens x (writeItems (xs.map document) (']' :: tail))
          have next : nextElement false (',' :: '\x7b' :: rest) = .ok (true, '\x7b' :: rest) := rfl
          rw [← opened] at next
          rw [List.map_cons, writeItems, elements_of_next budget next here, others,
            List.reverse_cons, List.append_assoc, List.singleton_append]

/-- A list of objects is read back if each of them is. -/
theorem listOf_written (opens : ∀ x tail, ∃ rest, (document x).write tail = '\x7b' :: rest)
    (xs : List α)
    (read : ∀ x ∈ xs, ∀ tail, ((document x).write tail).length < limit →
      item ((document x).write tail) = .ok (x, tail))
    (tail : List Char) (enough : ((Value.list (xs.map document)).write tail).length < limit) :
    listOf limit item ((Value.list (xs.map document)).write tail) = .ok (xs, tail) := by
  cases limit with
  | zero => exact absurd enough (Nat.not_lt_zero _)
  | succ limit =>
      cases xs with
      | nil => rfl
      | cons x xs =>
          rw [List.map_cons, Value.write, List.length_cons] at enough
          have front := (document x).length_le_write (writeItems (xs.map document) (']' :: tail))
          have here := read x List.mem_cons_self (writeItems (xs.map document) (']' :: tail))
            (by omega)
          have others := elements_writeItems opens xs
            (fun y hy => read y (List.mem_cons_of_mem _ hy)) limit [x] tail (by omega) (by omega)
          obtain ⟨rest, opened⟩ := opens x (writeItems (xs.map document) (']' :: tail))
          have next : nextElement true ('\x7b' :: rest) = .ok (true, '\x7b' :: rest) := rfl
          rw [← opened] at next
          rw [List.map_cons, Value.write]
          exact (elements_of_next limit next here).trans others

end Lists

end Json
end Likeness
