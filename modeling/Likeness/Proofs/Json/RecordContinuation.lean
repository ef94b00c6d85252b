import Likeness.Json.Record
import Likeness.Proofs.Json.Continuation

/-!
# Records in a text that goes on

A record ends with its bracket or its brace, so it is taken off a longer text in the same way, with
any budget that is at least as large.  The readers of its members may take the budget too: the two
records have members of the same names and defaults, and each reader stops where the other one does.

**Main statements.**
* `readMembers_append`: the members of an object.
* `inOrder_append`: the members of a record that is written as a list.
* `stops_record`: the record in either form.
-/

namespace Likeness
namespace Json

variable {tail : List Char}

section Declared

/-- Members of the same names and defaults, whose readers stop before the tail like the first. -/
inductive Members.Extends (tail : List Char) :
    {types : List Type} → Members types → Members types → Prop
  | none : Members.Extends tail .none .none
  | cons {α : Type} {types : List Type} {member member' : Member α}
      {others others' : Members types}
      (name : member'.name = member.name) (absent : member'.absent = member.absent)
      (read : StopsBefore tail member.read member'.read)
      (extends_others : Members.Extends tail others others') :
      Members.Extends tail (.cons member others) (.cons member' others')

/-- The same is done about a member, up to a reader that stops before the tail. -/
inductive Members.Step.Extends (tail : List Char) {σ : Type} :
    Members.Step σ → Members.Step σ → Prop
  | unknown : Members.Step.Extends tail .unknown .unknown
  | repeated : Members.Step.Extends tail .repeated .repeated
  | read {reader reader' : Reader σ} (stops : StopsBefore tail reader reader') :
      Members.Step.Extends tail (.read reader) (.read reader')

theorem StopsBefore.map {α β : Type} {read read' : Reader α} (stops : StopsBefore tail read read')
    (f : α → β) :
    StopsBefore tail (fun s => (read s).map (fun (value, s) => (f value, s)))
      (fun s => (read' s).map (fun (value, s) => (f value, s))) := by
  intro s value rest came left
  obtain ⟨⟨x, s'⟩, taken, same⟩ := map_eq_ok came
  cases same
  simp only [stops s x rest taken left, Except.map]

variable {types : List Type} {members members' : Members types}

namespace Members.Extends

variable (ext : Members.Extends tail members members')

include ext

theorem empty : members'.empty = members.empty := by
  induction ext with
  | none => rfl
  | cons _ _ _ _ ih => rw [Members.empty, Members.empty, ih]

theorem complete (slots : Slots types) : members'.complete slots = members.complete slots := by
  induction ext with
  | none => rfl
  | cons name absent _ _ ih =>
      obtain ⟨slot, slots⟩ := slots
      simp only [Members.complete, absent, name, ih]

theorem step (name : String) (slots : Slots types) :
    Members.Step.Extends tail (members.step name slots) (members'.step name slots) := by
  induction ext with
  | none => exact .unknown
  | @cons α types member member' others others' sameName _ read _ ih =>
      obtain ⟨slot, slots⟩ := slots
      simp only [Members.step, sameName]
      by_cases here : member.name = name
      · simp only [if_pos here]
        cases slot with
        | some _ => exact .repeated
        | none => exact .read (read.map fun value => ((some value, slots) : Slots (α :: types)))
      · simp only [if_neg here]
        have there := ih slots
        generalize others.step name slots = stepped at there
        generalize others'.step name slots = stepped' at there
        cases there with
        | unknown => exact .unknown
        | repeated => exact .repeated
        | read stops => exact .read (stops.map fun slots => ((slot, slots) : Slots (α :: types)))

end Members.Extends

end Declared

namespace Layout

variable {s rest : List Char} {types : List Type} {members members' : Members types}

section Ordered

theorem nil_of_inOrder_nil {given : Nat} {isFirst : Bool} {values : Values types}
    (came : members.inOrder given isFirst [] = .ok (values, rest)) : rest = [] := by
  cases members with
  | none =>
      cases came
      rfl
  | cons member others => cases came

/-- By induction on the members: one that is written is read where the text goes on, and one that is
left out leaves the bracket in front. -/
theorem inOrder_append (ext : members.Extends tail members') {given : Nat} {isFirst : Bool}
    {values : Values types} (came : members.inOrder given isFirst s = .ok (values, rest))
    (left : rest ≠ []) :
    members'.inOrder given isFirst (s ++ tail) = .ok (values, rest ++ tail) := by
  induction ext generalizing given isFirst s with
  | none =>
      cases came
      rfl
  | cons _ absent read _ ih =>
      rw [Members.inOrder] at came ⊢
      split at came
      · cases came
      · next s' next =>
          rw [(nextElement_append tail next).1]
          split at came
          · cases came
          · next x s'' taken =>
              obtain ⟨⟨values, s₃⟩, others, same⟩ := map_eq_ok came
              cases same
              have between : s'' ≠ [] := by
                rintro rfl
                exact left (nil_of_inOrder_nil others)
              simp only [read s' x s'' taken between, ih others, Except.map]
      · next s' next =>
          rw [(nextElement_append tail next).1, absent]
          split at came
          · obtain ⟨⟨values, s₃⟩, others, same⟩ := map_eq_ok came
            cases same
            simp only [ih others, Except.map]
          · cases came

theorem closeList_append (tail : List Char) (closed : closeList s = .ok rest) :
    closeList (s ++ tail) = .ok (rest ++ tail) ∧ s ≠ [] := by
  unfold closeList at closed
  split at closed
  · next first =>
      cases closed
      refine ⟨?_, ?_⟩
      · rw [closeList, skipBlank_append_of_eq first]
        rfl
      · rintro rfl
        cases first
  · split at closed <;> cases closed
  · cases closed
  · cases closed

end Ordered

section Named

variable {isFirst more : Bool}

/-- Whether another member follows is seen from its quote or from the brace. -/
theorem nextMember_eq_ok (next : nextMember isFirst s = .ok (more, rest)) :
    (more = false ∧ skipBlank s = rest ∧ ∃ s', rest = '\x7d' :: s') ∨
      more = true ∧ (isFirst = true ∧ skipBlank s = '"' :: rest ∨
        isFirst = false ∧ ∃ s', skipBlank s = ',' :: s' ∧ skipBlank s' = '"' :: rest) := by
  unfold nextMember at next
  split at next
  · cases next
  · next first =>
      cases next
      exact Or.inl ⟨rfl, first, _, rfl⟩
  · next c s' other first =>
      refine Or.inr ?_
      split at next
      · next isFirst =>
          split at next
          · next quote =>
              cases next
              exact ⟨rfl, Or.inl ⟨isFirst, by rw [first, quote]⟩⟩
          · cases next
      · next notFirst =>
          split at next
          · next comma =>
              split at next
              · next second =>
                  cases next
                  exact ⟨rfl, Or.inr ⟨by simpa using notFirst, s', by rw [first, comma], second⟩⟩
              · cases next
              · cases next
              · cases next
          · cases next

theorem nextMember_append (tail : List Char) (next : nextMember isFirst s = .ok (more, rest)) :
    nextMember isFirst (s ++ tail) = .ok (more, rest ++ tail) := by
  rcases nextMember_eq_ok next with
    ⟨rfl, first, s', rfl⟩ | ⟨rfl, ⟨rfl, first⟩ | ⟨rfl, s', first, second⟩⟩
  · rw [nextMember, skipBlank_append_of_eq first]
    rfl
  · rw [nextMember, skipBlank_append_of_eq first]
    rfl
  · simp [nextMember, skipBlank_append_of_eq first, skipBlank_append_of_eq second]

variable {budget budget' : Nat} {slots filled : Slots types}

theorem ne_nil_of_readMembers
    (came : readMembers members budget isFirst slots s = .ok (filled, rest)) : s ≠ [] := by
  rintro rfl
  cases budget <;> cases came

/-- An object ends with its brace.  By induction on the budget, which drops for each member,
declared or not. -/
theorem readMembers_append (ext : members.Extends tail members') (le : budget ≤ budget')
    (isFirst : Bool) (slots : Slots types) :
    Stops tail (readMembers members budget isFirst slots)
      (readMembers members' budget' isFirst slots) := by
  induction budget generalizing budget' isFirst slots with
  | zero => exact nofun
  | succ budget ih =>
      obtain ⟨budget', rfl⟩ := Nat.exists_eq_add_one_of_ne_zero (Nat.ne_zero_of_lt le)
      have le := Nat.le_of_succ_le_succ le
      intro s filled rest came
      obtain ⟨⟨more, s₁⟩, next, came⟩ := bind_eq_ok came
      have next' := nextMember_append tail next
      cases more with
      | false =>
          cases came
          obtain ⟨_, _, s', rfl⟩ | ⟨absurd, _⟩ := nextMember_eq_ok next
          · rw [readMembers, next']
            rfl
          · cases absurd
      | true =>
          obtain ⟨⟨name, s₂⟩, named, came⟩ := bind_eq_ok came
          have named' := textBody_append tail named
          have stepped := ext.step name slots
          dsimp only at came
          rw [readMembers, next']
          simp only [bind, Except.bind, if_true, named']
          generalize members.step name slots = step at came stepped
          generalize members'.step name slots = step' at stepped
          cases stepped with
          | unknown =>
              obtain ⟨s₃, passed, came⟩ := bind_eq_ok came
              obtain ⟨s₄, parted, passed⟩ := bind_eq_ok passed
              have skipped := (skip_passes tail le).1 s₄ s₃ passed (ne_nil_of_readMembers came)
              simp only [colon_append parted, skipped]
              exact ih le false slots _ _ _ came
          | repeated => cases came
          | read stops =>
              obtain ⟨s₃, parted, came⟩ := bind_eq_ok came
              obtain ⟨⟨between, s₄⟩, taken, came⟩ := bind_eq_ok came
              simp only [colon_append parted, stops _ _ _ taken (ne_nil_of_readMembers came)]
              exact ih le false between _ _ _ came

end Named

end Layout

/-- A record is taken off a longer text by any layout that extends its own. -/
theorem stops_record {α : Type} {types : List Type} {members members' : Members types}
    (ext : members.Extends tail members') {budget budget' : Nat} (le : budget ≤ budget')
    (title title' : String) (build : Values types → α) :
    Stops tail (Layout.read ⟨title, types, members, build⟩ budget)
      (Layout.read ⟨title', types, members', build⟩ budget') := by
  intro s value rest came
  unfold Layout.read at came ⊢
  split at came
  · next s' first =>
      rw [skipBlank_append_of_eq first]
      unfold Layout.readList at came ⊢
      split at came
      · cases came
      · cases came
      · next values s₁ ordered =>
          obtain ⟨s₂, closed, same⟩ := map_eq_ok came
          cases same
          obtain ⟨closed', left⟩ := Layout.closeList_append tail closed
          simp only [Layout.inOrder_append ext ordered left, closed', Except.map]
  · next s' first =>
      rw [skipBlank_append_of_eq first]
      unfold Layout.readObject at came ⊢
      split at came
      · cases came
      · next slots s₁ members =>
          have members' := Layout.readMembers_append ext le true _ s' slots s₁ members
          split at came
          · cases came
          · next values complete =>
              cases came
              simp only [ext.empty, members', ext.complete, complete]
  · cases came

end Json
end Likeness
