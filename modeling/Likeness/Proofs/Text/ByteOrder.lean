import Likeness.Store.Cell
import Mathlib.Data.List.Basic

/-!
# The order of texts and of their bytes

The bytes of a text in UTF-8 are in the same order as its characters: of two different characters
the lesser one has the lesser byte at the first place where they differ, and neither begins with
all bytes of the other.

**Main statements.**
* `diverges_of_lt`: two characters.
* `lt_iff_bytes_lt`, `eq_iff_bytes_eq`: two texts.
* `zero_mem_bytes_iff`: null bytes.
-/

namespace Likeness
namespace Utf8

/-- The first place at which two lists of bytes differ is in both, and has a lesser byte in the
first one. -/
inductive Diverges : List UInt8 → List UInt8 → Prop
  | here {x y : UInt8} (less : x < y) (s t : List UInt8) : Diverges (x :: s) (y :: t)
  | later {s t : List UInt8} (x : UInt8) (rest : Diverges s t) : Diverges (x :: s) (x :: t)

namespace Diverges

theorem append_lt {a b : List UInt8} (h : Diverges a b) (s t : List UInt8) :
    a ++ s < b ++ t := by
  induction h with
  | here less => exact List.cons_lt_cons_iff.2 (Or.inl less)
  | later x rest ih => exact List.cons_lt_cons_iff.2 (Or.inr ⟨rfl, ih⟩)

theorem of_le {m n : Nat} {s t : List UInt8} (le : m ≤ n) (fits : n < 256)
    (rest : m = n → Diverges s t) : Diverges (UInt8.ofNat m :: s) (UInt8.ofNat n :: t) := by
  rcases Nat.eq_or_lt_of_le le with rfl | less
  · exact .later _ (rest rfl)
  · refine .here ?_ s t
    rw [UInt8.lt_iff_toNat_lt, UInt8.toNat_ofNat', UInt8.toNat_ofNat',
      Nat.mod_eq_of_lt (Nat.lt_trans less fits), Nat.mod_eq_of_lt fits]
    exact less

theorem of_lt {m n : Nat} (s t : List UInt8) (less : m < n) (fits : n < 256) :
    Diverges (UInt8.ofNat m :: s) (UInt8.ofNat n :: t) :=
  of_le (Nat.le_of_lt less) fits fun same => absurd same (Nat.ne_of_lt less)

end Diverges

/-- The four forms of a character. -/
theorem encode_cases (c : Char) :
    let code := c.val.toNat
    code ≤ 0x7f ∧ String.utf8EncodeChar c = [.ofNat code] ∨
    (0x7f < code ∧ code ≤ 0x7ff) ∧
      String.utf8EncodeChar c = [.ofNat (code / 64 + 0xc0), .ofNat (code % 64 + 0x80)] ∨
    (0x7ff < code ∧ code ≤ 0xffff) ∧
      String.utf8EncodeChar c =
        [.ofNat (code / 4096 + 0xe0), .ofNat (code / 64 % 64 + 0x80),
          .ofNat (code % 64 + 0x80)] ∨
    (0xffff < code ∧ code < 0x110000) ∧
      String.utf8EncodeChar c =
        [.ofNat (code / 262144 + 0xf0), .ofNat (code / 4096 % 64 + 0x80),
          .ofNat (code / 64 % 64 + 0x80), .ofNat (code % 64 + 0x80)] := by
  have limit : c.val.toNat < 0x110000 := c.valid.elim (by omega) fun h => h.2
  intro code
  unfold String.utf8EncodeChar
  by_cases one : code ≤ 0x7f
  · exact Or.inl ⟨one, if_pos one⟩
  · by_cases two : code ≤ 0x7ff
    · refine Or.inr (Or.inl ⟨⟨by omega, two⟩, ?_⟩)
      rw [← Nat.mod_eq_of_lt (a := code / 64) (b := 0x20) (by omega)]
      exact (if_neg one).trans (if_pos two)
    · by_cases three : code ≤ 0xffff
      · refine Or.inr (Or.inr (Or.inl ⟨⟨by omega, three⟩, ?_⟩))
        rw [← Nat.mod_eq_of_lt (a := code / 4096) (b := 0x10) (by omega)]
        exact (if_neg one).trans ((if_neg two).trans (if_pos three))
      · refine Or.inr (Or.inr (Or.inr ⟨⟨by omega, limit⟩, ?_⟩))
        rw [← Nat.mod_eq_of_lt (a := code / 262144) (b := 0x08) (by omega)]
        exact (if_neg one).trans ((if_neg two).trans (if_neg three))

theorem diverges_of_lt {c d : Char} (less : c < d) :
    Diverges (String.utf8EncodeChar c) (String.utf8EncodeChar d) := by
  have codes : c.val.toNat < d.val.toNat := less
  -- a longer form starts with a greater byte; in forms of the same length the digits decide
  rcases encode_cases c with ⟨hc, ec⟩ | ⟨hc, ec⟩ | ⟨hc, ec⟩ | ⟨hc, ec⟩ <;>
    rcases encode_cases d with ⟨hd, ed⟩ | ⟨hd, ed⟩ | ⟨hd, ed⟩ | ⟨hd, ed⟩ <;>
      rw [ec, ed] <;> first
        | exact .of_lt _ _ (by omega) (by omega)
        | exact .of_le (by omega) (by omega) fun _ => .of_lt _ _ (by omega) (by omega)
        | exact .of_le (by omega) (by omega) fun _ => .of_le (by omega) (by omega) fun _ =>
            .of_lt _ _ (by omega) (by omega)
        | exact .of_le (by omega) (by omega) fun _ => .of_le (by omega) (by omega) fun _ =>
            .of_le (by omega) (by omega) fun _ => .of_lt _ _ (by omega) (by omega)

section Texts

/-- The bytes of some characters. -/
def bytesOf (cs : List Char) : List UInt8 :=
  cs.flatMap String.utf8EncodeChar

theorem bytesOf_lt_of_lt {as bs : List Char} (h : as < bs) : bytesOf as < bytesOf bs := by
  induction as generalizing bs with
  | nil =>
      cases bs with
      | nil => exact absurd h (List.lt_irrefl _)
      | cons d ds =>
          rcases encode_cases d with ⟨_, ed⟩ | ⟨_, ed⟩ | ⟨_, ed⟩ | ⟨_, ed⟩ <;>
            simp [bytesOf, ed]
  | cons c cs ih =>
      cases bs with
      | nil => exact absurd h (List.not_lt_nil _)
      | cons d ds =>
          rcases List.cons_lt_cons_iff.1 h with less | ⟨rfl, less⟩
          · exact (diverges_of_lt less).append_lt _ _
          · exact List.append_left_lt (ih less)

theorem toList_loop_eq (bytes : ByteArray) {behind : Nat} :
    ∀ {i : Nat}, i + behind = bytes.size → ∀ done,
      ByteArray.toList.loop bytes i done = done.reverse ++ bytes.data.toList.drop i := by
  induction behind with
  | zero =>
      intro i here done
      rw [ByteArray.toList.loop, if_neg (by omega), List.drop_of_length_le, List.append_nil]
      exact Nat.le_of_eq here.symm
  | succ behind ih =>
      intro i here done
      have inside : i < bytes.data.size := Nat.lt_of_lt_of_eq (by omega) here
      have there : i < bytes.data.toList.length := inside
      rw [ByteArray.toList.loop, if_pos (by omega), ih (by omega), ← List.getElem_cons_drop there]
      simp [ByteArray.get!, getElem!_pos bytes.data i inside]

theorem toList_toUTF8 (s : String) : s.toUTF8.toList = bytesOf s.toList := by
  rw [ByteArray.toList, toList_loop_eq _ (Nat.zero_add _), String.toUTF8_eq_toByteArray, ← String.utf8Encode_toList]
  simp [List.utf8Encode, bytesOf]

/-- Texts are in the order of their bytes. -/
theorem lt_iff_bytes_lt {a b : String} : a < b ↔ a.toUTF8.toList < b.toUTF8.toList := by
  rw [toList_toUTF8, toList_toUTF8]
  constructor
  · intro less
    exact bytesOf_lt_of_lt less
  · intro less
    by_contra notLess
    by_cases notGreater : b < a
    · exact List.lt_asymm (bytesOf_lt_of_lt notGreater) less
    · obtain rfl : a = b := String.le_antisymm notGreater notLess
      exact List.lt_irrefl _ less

theorem eq_iff_bytes_eq {a b : String} : a = b ↔ a.toUTF8.toList = b.toUTF8.toList := by
  constructor
  · rintro rfl
    rfl
  · intro same
    refine String.le_antisymm ?_ ?_
    · intro less
      exact List.lt_irrefl _ (same ▸ lt_iff_bytes_lt.1 less)
    · intro less
      exact List.lt_irrefl _ (same ▸ lt_iff_bytes_lt.1 less)

/-- Only the null character has a null byte. -/
theorem zero_mem_encode_iff {c : Char} : 0 ∈ String.utf8EncodeChar c ↔ c = '\x00' := by
  have null : c = '\x00' ↔ c.val.toNat = 0 := by
    rw [Char.ext_iff, ← UInt32.toNat_inj]
    rfl
  rw [null]
  rcases encode_cases c with ⟨_, ec⟩ | ⟨_, ec⟩ | ⟨_, ec⟩ | ⟨_, ec⟩ <;>
    simp only [ec, List.mem_cons, List.not_mem_nil, or_false, ← UInt8.toNat_inj,
      UInt8.toNat_ofNat', UInt8.toNat_zero] <;>
    omega

theorem zero_mem_bytes_iff {s : String} : 0 ∈ s.toUTF8.toList ↔ '\x00' ∈ s.toList := by
  rw [toList_toUTF8, bytesOf, List.mem_flatMap]
  simp [zero_mem_encode_iff]

end Texts

end Utf8
end Likeness
