import Likeness.Json.Shape
import Likeness.Json.Value

/-!
# Texts are read back as written

Writing a text escapes the quote, the backslash and the control characters and nothing else.
Reading takes each character as it was written, escaped or not, and stops at the closing quote.

**Main statements.**
* `textBody_writeCharacter`: one written character is taken off the text.
* `text_writeText`: a text is read back whatever follows it.
-/

namespace Likeness
namespace Json

section Escapes

theorem escape_of_letter {c letter : Char} (h : escapeLetter? c = some letter)
    (rest : List Char) : escape (letter :: rest) = .ok (c, rest) := by
  unfold escapeLetter? at h
  split at h <;> cases h <;> rfl

theorem hexValue?_of_lt {n : Nat} (h : n < 32) :
    hexValue? '0' '0' (hexDigit (n / 16)) (hexDigit (n % 16)) = some n := by
  have all : ∀ k : Fin 32,
      hexValue? '0' '0' (hexDigit (k.val / 16)) (hexDigit (k.val % 16)) = some k.val := by
    decide +kernel
  exact all ⟨n, h⟩

theorem escape_of_code {c : Char} (control : c < ' ') (rest : List Char) :
    escape ('u' :: '0' :: '0' :: hexDigit (c.toNat / 16) :: hexDigit (c.toNat % 16) :: rest) =
      .ok (c, rest) := by
  have small : c.toNat < 32 := control
  have group : hexGroup ('0' :: '0' :: hexDigit (c.toNat / 16) :: hexDigit (c.toNat % 16) :: rest) =
      .ok (c.toNat, rest) := by
    rw [hexGroup, hexValue?_of_lt small]
  have trailing : isTrailing c.toNat = false := by
    rw [isTrailing]
    simp
    omega
  have leading : isLeading c.toNat = false := by
    rw [isLeading]
    simp
    omega
  simp only [escape, coded, group, trailing, leading, Bool.false_eq_true, if_false,
    Char.ofNat_toNat]

end Escapes

section Bodies

theorem textBody_of_escape {taken s rest : List Char} {c : Char}
    (h : escape s = .ok (c, rest)) : textBody taken ('\\' :: s) = textBody (c :: taken) rest := by
  rw [textBody]
  split
  · next fault failed =>
      rw [h] at failed
      cases failed
  · next c' rest' read =>
      rw [h, Except.ok.injEq, Prod.mk.injEq] at read
      rw [read.1, read.2]

/-- Each character is read as it was written. -/
theorem textBody_writeCharacter (taken : List Char) (c : Char) (rest : List Char) :
    textBody taken (writeCharacter c ++ rest) = textBody (c :: taken) rest := by
  unfold writeCharacter
  cases short : escapeLetter? c with
  | some letter => exact textBody_of_escape (escape_of_letter short rest)
  | none =>
      by_cases control : c < ' '
      · simp only [control, if_true]
        exact textBody_of_escape (escape_of_code control rest)
      · have quote : c ≠ '"' := by
          rintro rfl
          cases short
        have backslash : c ≠ '\\' := by
          rintro rfl
          cases short
        simp only [control, if_false, List.singleton_append]
        rw [textBody.eq_4 _ _ _ quote backslash, if_neg control]

theorem textBody_writeBody (taken cs tail : List Char) :
    textBody taken (writeBody cs tail) = .ok (String.ofList (taken.reverse ++ cs), tail) := by
  induction cs generalizing taken with
  | nil => rw [writeBody, textBody, List.append_nil]
  | cons c cs ih =>
      rw [writeBody, textBody_writeCharacter, ih, List.reverse_cons, List.append_assoc,
        List.singleton_append]

/-- Behind its opening quote a text is read up to its closing quote. -/
theorem textBody_written (s : String) (tail : List Char) :
    textBody [] (writeBody s.toList tail) = .ok (s, tail) := by
  rw [textBody_writeBody, List.reverse_nil, List.nil_append, String.ofList_toList]

end Bodies

/-- A text is read back whatever follows it. -/
theorem text_writeText (s : String) (tail : List Char) : text (writeText s tail) = .ok (s, tail) :=
  textBody_written s tail

end Json
end Likeness
