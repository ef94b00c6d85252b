import Likeness.Json.Shape
import Mathlib.Tactic.IntervalCases

/-!
# Natural numbers are read back as written

A natural number is written as its decimal digits, without a needless zero.  Behind it the text
must not go on as a numeral could; a comma, a bracket and a brace are all right.

**Main statements.**
* `scanNumeral_toDigits`: the digits are taken off the text as one numeral without a fraction.
* `absorb_eq`: their value is the number, as long as it fits.
* `naturalUpTo_toString`: a number within the limit is read back.
-/

namespace Likeness
namespace Json

section Digits

theorem isDigit_of_mem_toDigits {n : Nat} {c : Char} (h : c ∈ Nat.toDigits 10 n) :
    isDigit c = true := by
  have digit : c.isDigit = true := Nat.isDigit_of_mem_toDigits (by decide) (by decide) h
  simpa [Char.isDigit, isDigit, Char.le_def] using digit

/-- Only the digits of zero start with a zero. -/
theorem toDigits_cases (n : Nat) :
    Nat.toDigits 10 n = ['0'] ∨ ∃ d ds, Nat.toDigits 10 n = d :: ds ∧ d ≠ '0' := by
  by_cases small : n < 10
  · rw [Nat.toDigits_of_lt_base small]
    interval_cases n
    · exact Or.inl rfl
    all_goals exact Or.inr ⟨_, [], rfl, by decide⟩
  · rw [Nat.toDigits_of_base_le (by decide) (by omega)]
    rcases toDigits_cases (n / 10) with zero | ⟨d, ds, digits, nonzero⟩
    · have value := congrArg (fun digits => Nat.ofDigitChars 10 digits 0) zero
      rw [Nat.ofDigitChars_ten_toDigits] at value
      have none : n / 10 = 0 := value
      omega
    · exact Or.inr ⟨d, _, by rw [digits, List.cons_append], nonzero⟩

theorem exists_toDigits_eq (n : Nat) :
    ∃ d ds, Nat.toDigits 10 n = d :: ds ∧ isDigit d = true := by
  obtain ⟨d, ds, digits⟩ := List.exists_cons_of_ne_nil (Nat.toDigits_ne_nil (n := n) (b := 10))
  exact ⟨d, ds, digits, isDigit_of_mem_toDigits (n := n) (digits ▸ List.mem_cons_self)⟩

end Digits

section Scanning

/-- A numeral that stands in front of this text ends there. -/
def EndsNumeral (tail : List Char) : Prop :=
  ∀ c ∈ tail.head?, isDigit c = false ∧ c ≠ '.' ∧ c ≠ 'e' ∧ c ≠ 'E'

variable {early : Cause} {tail : List Char}

theorem scanWhole_toDigits (n : Nat) (ends : EndsNumeral tail) :
    scanWhole early (Nat.toDigits 10 n ++ tail) = .ok (Nat.toDigits 10 n, tail) := by
  have all : ∀ c ∈ Nat.toDigits 10 n, isDigit c = true := fun c => isDigit_of_mem_toDigits
  rcases toDigits_cases n with zero | ⟨d, ds, digits, nonzero⟩
  · rw [zero, List.singleton_append]
    cases tail with
    | nil => rfl
    | cons c rest => rw [scanWhole, (ends c rfl).1, if_neg Bool.false_ne_true]
  · rw [digits] at all ⊢
    have rest : ∀ c ∈ ds, isDigit c = true := fun c h => all c (List.mem_cons_of_mem _ h)
    have stop : tail.takeWhile isDigit = [] ∧ tail.dropWhile isDigit = tail := by
      cases tail with
      | nil => exact ⟨rfl, rfl⟩
      | cons c rest => simp [(ends c rfl).1]
    rw [List.cons_append, scanWhole.eq_4 _ _ _ nonzero, if_pos (all d List.mem_cons_self),
      List.takeWhile_append_of_pos rest, List.dropWhile_append_of_pos rest, stop.1, stop.2,
      List.append_nil]

theorem scanFraction_of_ends (ends : EndsNumeral tail) :
    scanFraction early tail = .ok (none, tail) := by
  refine scanFraction.eq_3 early tail ?_
  rintro s rfl
  exact (ends '.' rfl).2.1 rfl

theorem scanExponent_of_ends (ends : EndsNumeral tail) :
    scanExponent early tail = .ok (none, tail) := by
  cases tail with
  | nil => rfl
  | cons c rest =>
      have other : ¬(c = 'e' ∨ c = 'E') := by simp [ends c rfl]
      unfold scanExponent
      split <;> simp_all

theorem scanNumeral_toDigits (n : Nat) (ends : EndsNumeral tail) :
    scanNumeral early (Nat.toDigits 10 n ++ tail) =
      .ok (⟨Nat.toDigits 10 n, none, none⟩, tail) := by
  simp only [scanNumeral, scanWhole_toDigits n ends, scanFraction_of_ends ends,
    scanExponent_of_ends ends, bind, Except.bind, pure, Except.pure]

end Scanning

section Values

theorem le_ofDigitChars (value : Nat) (digits : List Char) :
    value ≤ Nat.ofDigitChars 10 digits value := by
  induction digits generalizing value with
  | nil => exact Nat.le_refl _
  | cons d digits ih =>
      rw [Nat.ofDigitChars_cons]
      have le := ih (10 * value + (d.toNat - '0'.toNat))
      omega

/-- Digits whose value fits are all absorbed. -/
theorem absorb_eq {limit : Nat} (value : Nat) (digits : List Char)
    (fits : Nat.ofDigitChars 10 digits value ≤ limit) :
    absorb limit value digits = (Nat.ofDigitChars 10 digits value, []) := by
  induction digits generalizing value with
  | nil => rfl
  | cons d digits ih =>
      rw [Nat.ofDigitChars_cons] at fits ⊢
      have next : value * 10 + (d.toNat - 48) = 10 * value + (d.toNat - '0'.toNat) := by
        rw [Nat.mul_comm]
        rfl
      have small := Nat.le_trans (le_ofDigitChars _ digits) fits
      simp only [absorb, next, if_pos small]
      exact ih _ fits

theorem number_toDigits {n : Nat} {tail : List Char} (fits : n ≤ significandLimit)
    (ends : EndsNumeral tail) :
    number (Nat.toDigits 10 n ++ tail) = .ok (.integer n, tail) := by
  have unsigned : ∀ s, Nat.toDigits 10 n ++ tail = '-' :: s → False := by
    intro s h
    obtain ⟨d, ds, digits, digit⟩ := exists_toDigits_eq n
    rw [digits, List.cons_append, List.cons.injEq] at h
    rw [h.1] at digit
    cases digit
  have value : absorb significandLimit 0 (Nat.toDigits 10 n) = (n, []) := by
    rw [absorb_eq, Nat.ofDigitChars_ten_toDigits]
    rwa [Nat.ofDigitChars_ten_toDigits]
  rw [number.eq_2 _ unsigned, scanNumeral_toDigits n ends]
  simp [Numeral.value, value, bind, Except.bind, pure, Except.pure]

end Values

theorem isBlank_of_isDigit {c : Char} (digit : isDigit c = true) : isBlank c = false := by
  by_contra blank
  simp only [isBlank, Bool.not_eq_false, Bool.or_eq_true, decide_eq_true_eq] at blank
  rcases blank with ((rfl | rfl) | rfl) | rfl <;> cases digit

/-- A number within the limit is read back, if the text goes on with the end of a numeral. -/
theorem naturalUpTo_toString {limit n : Nat} {expected : String} {tail : List Char}
    (fits : n ≤ limit) (limited : limit ≤ significandLimit) (ends : EndsNumeral tail) :
    naturalUpTo limit expected ((toString n).toList ++ tail) = .ok (n, tail) := by
  rw [Nat.toString_eq_repr, Nat.toList_repr]
  have read := number_toDigits (Nat.le_trans fits limited) ends
  obtain ⟨d, ds, digits, digit⟩ := exists_toDigits_eq n
  rw [digits, List.cons_append] at read ⊢
  have there : skipBlank (d :: (ds ++ tail)) = d :: (ds ++ tail) := by
    rw [skipBlank, List.dropWhile_cons_of_neg (by simp [isBlank_of_isDigit digit])]
  have starts : startsNumber (d :: (ds ++ tail)) = true := by
    rw [startsNumber, digit, Bool.or_true]
  simp only [naturalUpTo, there, starts, read, if_true]
  rw [if_pos fits]

end Json
end Likeness
