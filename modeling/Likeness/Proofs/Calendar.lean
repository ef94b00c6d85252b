import Likeness.Calendar
import Likeness.Proofs.Text.Numeral
import Mathlib.Algebra.BigOperators.Intervals

/-!
# Timestamps in the Gregorian calendar

A timestamp is made by counting off the years from 1970 on and then the months of a year.  Each turn
of either count takes as many days away as it passes over, so that the days passed over and those
that are left make up the days there were at first.  The count of the years ends because no year is
shorter than 365 days, and the count of the months ends within the year because fewer days are left
than the twelve months have.

**Main statements.**
* `YearCount.spec`, `exists_yearCount`: what counting off years comes to, and that it comes to an
  end.
* `countMonths_spec`: what counting off months comes to.
* `Instant.text_injective`: the text of an instant is that of no other one.
* `timestamp_states_civil_time`: the date and the time of day that a timestamp states.
-/

namespace Likeness
namespace Calendar

section Lengths

/-- Every fourth year, those of full centuries excepted if they are not divisible by 400. -/
def IsLeapYear (year : Nat) : Prop :=
  4 ∣ year ∧ (100 ∣ year → 400 ∣ year)

instance (year : Nat) : Decidable (IsLeapYear year) :=
  inferInstanceAs (Decidable (_ ∧ (_ → _)))

def lengthOfMonth (year : Nat) : Nat → Nat
  | 2 => if IsLeapYear year then 29 else 28
  | 4 | 6 | 9 | 11 => 30
  | _ => 31

def lengthOfYear (year : Nat) : Nat :=
  ∑ month ∈ Finset.Icc 1 12, lengthOfMonth year month

/-- Number of days from the first one of 1970 to a date. -/
def daysSince1970 (year month day : Nat) : Nat :=
  ∑ y ∈ Finset.Ico 1970 year, lengthOfYear y + ∑ m ∈ Finset.Ico 1 month, lengthOfMonth year m
    + (day - 1)

theorem isLeap_iff {year : Nat} : isLeap year = true ↔ IsLeapYear year := by
  simp only [isLeap, IsLeapYear, Bool.or_eq_true, Bool.and_eq_true, beq_iff_eq, bne_iff_ne]
  omega

theorem monthLengths_eq (year : Nat) :
    monthLengths year = (List.range' 1 12).map (lengthOfMonth year) := by
  simp [monthLengths, isLeap_iff, List.range', lengthOfMonth]

theorem daysInYear_eq (year : Nat) : daysInYear year = lengthOfYear year := by
  rw [daysInYear, lengthOfYear]
  by_cases leap : IsLeapYear year
  · simp [isLeap_iff, leap, Finset.sum_Icc_succ_top, lengthOfMonth]
  · simp [isLeap_iff, leap, Finset.sum_Icc_succ_top, lengthOfMonth]

theorem daysInYear_ge (year : Nat) : 365 ≤ daysInYear year := by
  unfold daysInYear
  split <;> decide

end Lengths

section Years

/-- Counting off years from a year and a number of days ends after some turns, in a year with some
days left. -/
inductive YearCount : Nat → Nat → Nat → Nat × Nat → Prop
  | stop {year days : Nat} (inside : days < daysInYear year) : YearCount year days 0 (year, days)
  | turn {year days turns : Nat} {last : Nat × Nat} (beyond : daysInYear year ≤ days)
      (rest : YearCount (year + 1) (days - daysInYear year) turns last) :
      YearCount year days (turns + 1) last

/-- The count ends. -/
theorem exists_yearCount (year days : Nat) :
    ∃ turns, turns ≤ days / 365 ∧ YearCount year days turns (countYears year days) := by
  fun_induction countYears year days with
  | case1 year days inside => exact ⟨0, Nat.zero_le _, .stop inside⟩
  | case2 year days beyond ih =>
      obtain ⟨turns, few, count⟩ := ih
      have long := daysInYear_ge year
      refine ⟨turns + 1, ?_, .turn (Nat.le_of_not_lt beyond) count⟩
      omega

/-- By induction on the turns: the years that are passed over and the days that are left make up the
days. -/
theorem YearCount.spec {year days turns : Nat} {last : Nat × Nat}
    (h : YearCount year days turns last) :
    last.1 = year + turns ∧ last.2 < lengthOfYear last.1 ∧
      ∑ y ∈ Finset.Ico year last.1, lengthOfYear y + last.2 = days := by
  induction h with
  | stop inside =>
      rw [daysInYear_eq] at inside
      exact ⟨rfl, inside, by simp⟩
  | @turn year days turns last beyond rest ih =>
      rw [daysInYear_eq] at beyond ih
      obtain ⟨turned, inside, sum⟩ := ih
      refine ⟨by omega, inside, ?_⟩
      rw [Finset.sum_eq_sum_Ico_succ_bot (by omega)]
      omega

end Years

section Months

/-- By induction on the months: those that are passed over and the days that are left make up the
days, and the months do not run out. -/
theorem countMonths_spec {length : Nat → Nat} {months first days : Nat}
    (inside : days < ∑ m ∈ Finset.Ico first (first + months), length m) :
    ∃ month left, countMonths first days ((List.range' first months).map length) = (month, left) ∧
      first ≤ month ∧ month < first + months ∧ left < length month ∧
      ∑ m ∈ Finset.Ico first month, length m + left = days := by
  induction months generalizing first days with
  | zero => simp at inside
  | succ months ih =>
      rw [List.range'_succ, List.map_cons, countMonths]
      by_cases here : days < length first
      · exact ⟨first, days, if_pos here, Nat.le_refl _, by omega, here, by simp⟩
      · rw [Finset.sum_eq_sum_Ico_succ_bot (by omega), Nat.add_comm months,
          ← Nat.add_assoc] at inside
        have behind : days - length first <
            ∑ m ∈ Finset.Ico (first + 1) (first + 1 + months), length m := by omega
        obtain ⟨month, left, counted, after, before, short, sum⟩ := ih behind
        refine ⟨month, left, ?_, by omega, by omega, short, ?_⟩
        · rw [if_neg here, counted]
        · rw [Finset.sum_eq_sum_Ico_succ_bot (by omega)]
          omega

end Months

section Texts

theorem toList_padded (width n : Nat) :
    ∃ zeros, (padded width n).toList = List.replicate zeros '0' ++ Nat.toDigits 10 n := by
  refine ⟨width - (toString n).length, ?_⟩
  rw [padded, String.toList_append, String.toList_ofList, Nat.toString_eq_repr, Nat.toList_repr]

theorem toList_text (t : Instant) :
    t.text.toList =
      (padded 4 t.year).toList ++ '-' :: ((padded 2 t.month).toList ++ '-' ::
        ((padded 2 t.day).toList ++ 'T' :: ((padded 2 t.hour).toList ++ ':' ::
          ((padded 2 t.minute).toList ++ ':' :: ((padded 2 t.second).toList ++ ['Z']))))) := by
  simp [Instant.text]

theorem padded_append_inj {width m n : Nat} {separator : Char} {rest rest' : List Char}
    (ends : separator.isDigit = false)
    (same : (padded width m).toList ++ separator :: rest =
      (padded width n).toList ++ separator :: rest') : m = n ∧ rest = rest' := by
  obtain ⟨zeros, first⟩ := toList_padded width m
  obtain ⟨zeros', second⟩ := toList_padded width n
  rw [first, second] at same
  exact zeros_append_toDigits_inj ends same

/-- The numbers are read off one after the other. -/
theorem Instant.text_injective {t u : Instant} (same : t.text = u.text) : t = u := by
  have same := congrArg String.toList same
  rw [toList_text, toList_text] at same
  obtain ⟨year, same⟩ := padded_append_inj rfl same
  obtain ⟨month, same⟩ := padded_append_inj rfl same
  obtain ⟨day, same⟩ := padded_append_inj rfl same
  obtain ⟨hour, same⟩ := padded_append_inj rfl same
  obtain ⟨minute, same⟩ := padded_append_inj rfl same
  obtain ⟨second, _⟩ := padded_append_inj rfl same
  obtain ⟨⟩ := t
  obtain ⟨⟩ := u
  rw [Instant.mk.injEq]
  exact ⟨year, month, day, hour, minute, second⟩

end Texts

section Instants

theorem Instant.exists_ofSeconds_eq (seconds : Nat) :
    ∃ year inYear month inMonth, countYears 1970 (seconds / 86400) = (year, inYear) ∧
      countMonths 1 inYear (monthLengths year) = (month, inMonth) ∧
      Instant.ofSeconds seconds =
        ⟨year, month, inMonth + 1, seconds % 86400 / 3600, seconds % 86400 % 3600 / 60,
          seconds % 86400 % 60⟩ :=
  ⟨_, _, _, _, rfl, rfl, rfl⟩

/-- A timestamp is the text of one instant only.  Its date is one of the calendar, as many days after
the first one of 1970 as there are whole days in the seconds, and its time of day makes up the rest.
The years are counted off in at most one turn for every 365 days. -/
theorem timestamp_states_civil_time (seconds : Nat) :
    ∃ t : Instant, (∀ u : Instant, u.text = timestamp seconds ↔ u = t) ∧
      1 ≤ t.month ∧ t.month ≤ 12 ∧ 1 ≤ t.day ∧ t.day ≤ lengthOfMonth t.year t.month ∧
      t.hour < 24 ∧ t.minute < 60 ∧ t.second < 60 ∧
      daysSince1970 t.year t.month t.day * 86400
        + (t.hour * 3600 + t.minute * 60 + t.second) = seconds ∧
      ∃ turns left, turns ≤ seconds / 86400 / 365 ∧ t.year = 1970 + turns ∧
        YearCount 1970 (seconds / 86400) turns (t.year, left) := by
  obtain ⟨turns, few, count⟩ := exists_yearCount 1970 (seconds / 86400)
  obtain ⟨year, inYear, month, inMonth, years, months, instant⟩ :=
    Instant.exists_ofSeconds_eq seconds
  rw [years] at count
  obtain ⟨turned, short, yearSum⟩ := count.spec
  dsimp only at turned yearSum
  -- less than a year is left, so the twelve months do not run out
  have inside : inYear < ∑ m ∈ Finset.Ico 1 (1 + 12), lengthOfMonth year m := short
  obtain ⟨month', inMonth', counted, first, last, within, monthSum⟩ := countMonths_spec inside
  rw [← monthLengths_eq, months, Prod.mk.injEq] at counted
  obtain ⟨rfl, rfl⟩ := counted
  have days : daysSince1970 year month (inMonth + 1) = seconds / 86400 := by
    rw [daysSince1970, Nat.add_sub_cancel, Nat.add_assoc, monthSum, yearSum]
  refine ⟨⟨year, month, inMonth + 1, seconds % 86400 / 3600, seconds % 86400 % 3600 / 60,
    seconds % 86400 % 60⟩, ?_, first, Nat.le_of_lt_succ last, Nat.succ_pos _, within, ?_⟩
  · intro u
    rw [timestamp, instant]
    exact ⟨Instant.text_injective, congrArg Instant.text⟩
  · rw [days]
    refine ⟨?_, ?_, ?_, ?_, turns, inYear, few, turned, count⟩
    all_goals dsimp only; omega

end Instants

end Calendar
end Likeness
