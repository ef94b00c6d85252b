import Mathlib.Data.List.Basic

/-!
# Answers of steps in a row

A step has an answer or a fault.  Steps in a row come to an answer only if each of them does, and
the same holds of the answers for all items of a list.
-/

namespace Likeness

section Steps

variable {ε ε' α β : Type}

theorem exists_ok_of_isOk {x : Except ε α} (h : x.isOk = true) : ∃ a, x = .ok a := by
  cases x with
  | error fault => cases h
  | ok a => exact ⟨a, rfl⟩

theorem exists_error_of_isOk {x : Except ε α} (h : x.isOk = false) : ∃ fault, x = .error fault := by
  cases x with
  | error fault => exact ⟨fault, rfl⟩
  | ok a => cases h

/-- What does well whenever a condition holds is refused only where it does not hold. -/
theorem not_of_refused {fault : ε} {P Q : Prop}
    (does : P → (∃ a : α, Except.error fault = .ok a) ∧ Q) : ¬ P := by
  intro holds
  obtain ⟨⟨_, came⟩, _⟩ := does holds
  cases came

theorem bind_eq_ok {first : Except ε α} {next : α → Except ε β} {b : β}
    (h : first >>= next = .ok b) : ∃ a, first = .ok a ∧ next a = .ok b := by
  cases first with
  | error fault => cases h
  | ok a => exact ⟨a, rfl, h⟩

theorem map_eq_ok {f : α → β} {x : Except ε α} {b : β} (h : x.map f = .ok b) :
    ∃ a, x = .ok a ∧ f a = b := by
  cases x with
  | error fault => cases h
  | ok a => exact ⟨a, rfl, Except.ok.inj h⟩

theorem mapError_eq_ok {f : ε → ε'} {x : Except ε α} {a : α} (h : x.mapError f = .ok a) :
    x = .ok a := by
  cases x with
  | error fault => cases h
  | ok b =>
      cases h
      rfl

end Steps

section Lists

variable {ε α β γ : Type}

theorem mapM_eq_some_iff {f : α → Option β} {l : List α} {l' : List β} :
    l.mapM f = some l' ↔ l.map f = l'.map some := by
  induction l generalizing l' with
  | nil =>
      cases l' with
      | nil => simp
      | cons y l' => simp
  | cons x l ih =>
      cases first : f x with
      | none =>
          cases l' with
          | nil => simp [List.mapM_cons, first]
          | cons y l' => simp [List.mapM_cons, first]
      | some z =>
          cases l' with
          | nil => simp [List.mapM_cons, first, Option.bind_eq_some_iff]
          | cons y l' =>
              simp only [List.mapM_cons, first, List.map_cons, Option.bind_eq_bind,
                Option.bind_some, Option.bind_eq_some_iff, ih, List.cons.injEq, Option.some.injEq,
                Option.pure_def]
              constructor
              · rintro ⟨rest, same, rfl, rfl⟩
                exact ⟨rfl, same⟩
              · rintro ⟨rfl, same⟩
                exact ⟨l', same, rfl, rfl⟩

theorem mapM_congr {f g : α → Except ε β} {l : List α} (same : ∀ x ∈ l, f x = g x) :
    l.mapM f = l.mapM g := by
  induction l with
  | nil => rfl
  | cons x l ih =>
      rw [List.mapM_cons, List.mapM_cons, same x (.head l),
        ih fun y mem => same y (.tail x mem)]

theorem mapM_map_eq_ok {f : β → Except ε γ} {g : α → β} {h : α → γ} {l : List α}
    (each : ∀ x ∈ l, f (g x) = .ok (h x)) : (l.map g).mapM f = .ok (l.map h) := by
  induction l with
  | nil => rfl
  | cons x l ih =>
      rw [List.map_cons, List.mapM_cons, each x (.head l), ih fun y mem => each y (.tail x mem)]
      rfl

end Lists

end Likeness
