/-!
# Numerals in texts

Two numerals of the same length are in the order of their numbers, whatever stands behind them; only
if the numbers are equal does that decide.  Numbers that agree but for their last digits have
numerals of the same length.

A numeral that a separator ends can be read off a text, and zeros in front of it do not change its
number.

**Main statements.**
* `lt_of_toDigits_append_lt`: numerals with texts behind them.
* `length_toDigits_eq_of_div`: numbers with the same part in front.
* `zeros_append_toDigits_inj`: numerals with zeros in front and a separator behind.
-/

namespace Likeness

section Order

/-- Digits are in the order of their numbers, then what stands behind them decides. -/
theorem lt_of_digitChar_cons_lt {d d' : Nat} (hd : d < 10) (hd' : d' < 10) {u v : List Char}
    (less : Nat.digitChar d :: u < Nat.digitChar d' :: v) : d < d' ∨ d = d' ∧ u < v := by
  have value := Nat.toNat_digitChar_of_lt_ten hd
  have value' := Nat.toNat_digitChar_of_lt_ten hd'
  rcases List.cons_lt_cons_iff.1 less with lower | ⟨same, behind⟩
  · have lower : (Nat.digitChar d).toNat < (Nat.digitChar d').toNat := lower
    omega
  · rw [same] at value
    exact Or.inr ⟨by omega, behind⟩

theorem length_toDigits_of_le {n : Nat} (large : 10 ≤ n) :
    (Nat.toDigits 10 n).length = (Nat.toDigits 10 (n / 10)).length + 1 := by
  rw [Nat.toDigits_of_base_le (by decide) large, List.length_append, List.length_singleton]

theorem length_toDigits_eq_one_iff {n : Nat} : (Nat.toDigits 10 n).length = 1 ↔ n < 10 := by
  constructor
  · intro single
    apply Nat.lt_of_not_le
    intro large
    rw [length_toDigits_of_le large] at single
    exact Nat.toDigits_ne_nil (List.length_eq_zero_iff.1 (Nat.succ.inj single))
  · intro small
    rw [Nat.toDigits_of_lt_base small, List.length_singleton]

/-- By induction on the digits: those in front decide first, and they are as many as before. -/
theorem lt_of_toDigits_append_lt {m n : Nat} {u v : List Char}
    (long : (Nat.toDigits 10 m).length = (Nat.toDigits 10 n).length)
    (less : Nat.toDigits 10 m ++ u < Nat.toDigits 10 n ++ v) : m < n ∨ m = n ∧ u < v := by
  induction m using Nat.strongRecOn generalizing n u v with
  | ind m ih =>
      by_cases small : m < 10
      · have small' : n < 10 := by
          rw [← length_toDigits_eq_one_iff, ← long, length_toDigits_eq_one_iff]
          exact small
        rw [Nat.toDigits_of_lt_base small, Nat.toDigits_of_lt_base small'] at less
        exact lt_of_digitChar_cons_lt small small' less
      · have large : 10 ≤ m := Nat.le_of_not_lt small
        have large' : 10 ≤ n := by
          rw [← length_toDigits_eq_one_iff, long, length_toDigits_eq_one_iff] at small
          exact Nat.le_of_not_lt small
        rw [length_toDigits_of_le large, length_toDigits_of_le large'] at long
        rw [Nat.toDigits_of_base_le (by decide) large, Nat.toDigits_of_base_le (by decide) large',
          List.append_assoc, List.append_assoc] at less
        rcases ih (m / 10) (by omega) (Nat.succ.inj long) less with front | ⟨front, last⟩
        · exact Or.inl (by omega)
        · rcases lt_of_digitChar_cons_lt (Nat.mod_lt m (by decide)) (Nat.mod_lt n (by decide)) last
            with lower | ⟨equal, behind⟩
          · exact Or.inl (by omega)
          · exact Or.inr ⟨by omega, behind⟩

/-- By induction on the number of last digits. -/
theorem length_toDigits_eq_of_div {m n : Nat} (digits : Nat) (positive : 0 < m / 10 ^ digits)
    (same : m / 10 ^ digits = n / 10 ^ digits) :
    (Nat.toDigits 10 m).length = (Nat.toDigits 10 n).length := by
  induction digits generalizing m n with
  | zero =>
      rw [Nat.pow_zero, Nat.div_one, Nat.div_one] at same
      rw [same]
  | succ digits ih =>
      rw [Nat.pow_succ'] at positive same
      simp only [← Nat.div_div_eq_div_mul] at positive same
      have large {k : Nat} (some : 0 < k / 10 / 10 ^ digits) : 10 ≤ k := by
        apply Nat.le_of_not_lt
        intro small
        rw [Nat.div_eq_of_lt small, Nat.zero_div] at some
        exact Nat.lt_irrefl 0 some
      have positive' : 0 < n / 10 / 10 ^ digits := Nat.lt_of_lt_of_eq positive same
      rw [length_toDigits_of_le (large positive), length_toDigits_of_le (large positive'),
        ih positive same]

end Order

section Separators

theorem append_separator_inj {α : Type} {separator : α} {u v rest rest' : List α}
    (hu : separator ∉ u) (hv : separator ∉ v)
    (same : u ++ separator :: rest = v ++ separator :: rest') : u = v ∧ rest = rest' := by
  induction u generalizing v with
  | nil =>
      cases v with
      | nil => exact ⟨rfl, (List.cons.inj same).2⟩
      | cons y v => exact absurd ((List.cons.inj same).1 ▸ .head _) hv
  | cons x u ih =>
      cases v with
      | nil => exact absurd ((List.cons.inj same).1 ▸ .head _) hu
      | cons y v =>
          obtain ⟨rfl, others⟩ := List.cons.inj same
          obtain ⟨rfl, rfl⟩ := ih (fun mem => hu (.tail _ mem)) (fun mem => hv (.tail _ mem)) others
          exact ⟨rfl, rfl⟩

theorem isDigit_of_mem_zeros_append {zeros n : Nat} {c : Char}
    (mem : c ∈ List.replicate zeros '0' ++ Nat.toDigits 10 n) : c.isDigit = true := by
  rcases List.mem_append.1 mem with zero | digit
  · rw [List.eq_of_mem_replicate zero]
    rfl
  · exact Nat.isDigit_of_mem_toDigits (by decide) (by decide) digit

theorem ofDigitChars_zeros_append (zeros n : Nat) :
    Nat.ofDigitChars 10 (List.replicate zeros '0' ++ Nat.toDigits 10 n) 0 = n := by
  rw [Nat.ofDigitChars_append, Nat.ofDigitChars_replicate_zero, Nat.mul_zero,
    Nat.ofDigitChars_ten_toDigits]

/-- The number is read off the digits up to the separator. -/
theorem zeros_append_toDigits_inj {zeros zeros' m n : Nat} {separator : Char}
    {rest rest' : List Char} (ends : separator.isDigit = false)
    (same : List.replicate zeros '0' ++ Nat.toDigits 10 m ++ separator :: rest =
      List.replicate zeros' '0' ++ Nat.toDigits 10 n ++ separator :: rest') :
    m = n ∧ rest = rest' := by
  have absent (zeros n : Nat) :
      separator ∉ List.replicate zeros '0' ++ Nat.toDigits 10 n := by
    intro mem
    rw [isDigit_of_mem_zeros_append mem] at ends
    cases ends
  obtain ⟨digits, others⟩ := append_separator_inj (absent zeros m) (absent zeros' n) same
  have number := congrArg (Nat.ofDigitChars 10 · 0) digits
  simp only [ofDigitChars_zeros_append] at number
  exact ⟨number, others⟩

end Separators

end Likeness
