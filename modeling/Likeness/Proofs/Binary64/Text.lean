import Likeness.Binary64.Text

/-!
# The characters of number texts

A number without an exponent is written with digits, a minus sign, a point, and the letters of the
words for what is no finite number.  Nothing in it can be taken for a separator.

**Main statements.**
* `isNumeral_of_mem_plain`: the shortest digits.
* `isNumeral_of_mem_fixed`: a number of decimal places.
-/

namespace Likeness
namespace Binary64

open Decimal

/-- A digit, a sign, a point, or a letter of `NaN` and `inf`. -/
def isNumeral (c : Char) : Bool :=
  c.isDigit || ['-', '.', 'N', 'a', 'i', 'n', 'f'].contains c

theorem isNumeral_of_isDigit {c : Char} (digit : c.isDigit = true) : isNumeral c = true := by
  rw [isNumeral, digit, Bool.true_or]

theorem isNumeral_of_mem_digitsOf {n : Nat} {c : Char} (mem : c ∈ digitsOf n) :
    isNumeral c = true :=
  isNumeral_of_isDigit (Nat.isDigit_of_mem_toDigits (by decide) (by decide) mem)

theorem isNumeral_of_mem_zeros {n : Nat} {c : Char} (mem : c ∈ List.replicate n '0') :
    isNumeral c = true := by
  rw [List.eq_of_mem_replicate mem]
  decide

theorem isNumeral_of_mem_shortest {tie : Tie} {m : Nat} {q : Int} {c : Char}
    (mem : c ∈ (shortest tie m q).digits) : isNumeral c = true := by
  have kept := (List.dropWhile_sublist _).subset (List.mem_reverse.1 mem)
  exact isNumeral_of_mem_digitsOf (List.mem_reverse.1 kept)

theorem isNumeral_of_mem_positionalText {d : Digits} {c : Char}
    (digits : ∀ c ∈ d.digits, isNumeral c = true) (mem : c ∈ positionalText plainLayout d) :
    isNumeral c = true := by
  unfold positionalText at mem
  split at mem
  · rcases List.mem_cons.1 mem with rfl | mem
    · decide
    · rcases List.mem_cons.1 mem with rfl | mem
      · decide
      · exact (List.mem_append.1 mem).elim isNumeral_of_mem_zeros (digits c)
  · simp only at mem
    split at mem
    · rw [plainLayout, List.append_nil] at mem
      exact (List.mem_append.1 mem).elim (digits c) isNumeral_of_mem_zeros
    · rcases List.mem_append.1 mem with mem | mem
      · exact digits c (List.mem_of_mem_take mem)
      · rcases List.mem_cons.1 mem with rfl | mem
        · decide
        · exact digits c (List.mem_of_mem_drop mem)

theorem isNumeral_of_mem_magnitudeText {m : Nat} {q : Int} {c : Char}
    (mem : c ∈ magnitudeText plainLayout m q) : isNumeral c = true := by
  unfold magnitudeText at mem
  split at mem
  · rw [plainLayout, List.mem_singleton] at mem
    rw [mem]
    decide
  · exact isNumeral_of_mem_positionalText (fun _ => isNumeral_of_mem_shortest) mem

theorem isNumeral_of_mem_withPoint {places units : Nat} {c : Char}
    (mem : c ∈ withPoint places units) : isNumeral c = true := by
  have padded : ∀ c ∈ padZeros (places + 1) (digitsOf units), isNumeral c = true := by
    intro c mem
    exact (List.mem_append.1 mem).elim isNumeral_of_mem_zeros isNumeral_of_mem_digitsOf
  unfold withPoint at mem
  simp only at mem
  split at mem
  · exact padded c (List.mem_of_mem_take mem)
  · rcases List.mem_append.1 mem with mem | mem
    · exact padded c (List.mem_of_mem_take mem)
    · rcases List.mem_cons.1 mem with rfl | mem
      · decide
      · exact padded c (List.mem_of_mem_drop mem)

section Signs

variable {x : Binary64} {c : Char}

theorem isNumeral_of_mem_signed {text : List Char} (numerals : ∀ c ∈ text, isNumeral c = true)
    (mem : c ∈ x.signed text) : isNumeral c = true := by
  unfold signed at mem
  split at mem
  · rcases List.mem_cons.1 mem with rfl | mem
    · decide
    · exact numerals c mem
  · exact numerals c mem

theorem isNumeral_of_mem_specialText (mem : c ∈ x.specialText) : isNumeral c = true := by
  unfold specialText at mem
  split at mem
  · have word : ∀ c ∈ "NaN".toList, isNumeral c = true := by simp [isNumeral]
    exact word c mem
  · have word : ∀ c ∈ "inf".toList, isNumeral c = true := by simp [isNumeral]
    exact isNumeral_of_mem_signed word mem

/-- The shortest digits without an exponent. -/
theorem isNumeral_of_mem_plain (mem : c ∈ x.plain.toList) : isNumeral c = true := by
  rw [plain, String.toList_ofList, shortestText] at mem
  split at mem
  · exact isNumeral_of_mem_specialText mem
  · exact isNumeral_of_mem_signed (fun _ => isNumeral_of_mem_magnitudeText) mem

/-- A number of decimal places. -/
theorem isNumeral_of_mem_fixed {places : Nat} (mem : c ∈ (fixed places x).toList) :
    isNumeral c = true := by
  unfold fixed at mem
  split at mem
  · rw [String.toList_ofList] at mem
    exact isNumeral_of_mem_specialText mem
  · rw [String.toList_ofList] at mem
    exact isNumeral_of_mem_signed (fun _ => isNumeral_of_mem_withPoint) mem

end Signs

end Binary64
end Likeness
