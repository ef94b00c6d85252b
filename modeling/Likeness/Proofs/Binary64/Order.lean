import Mathlib.Data.Prod.Lex
import Likeness.Proofs.Similarity

/-!
# The numerical order is linear on numbers

Two double precision numbers are compared by their signs and kinds, then by their exponents, then by
their fractions.  So each has a place in a linear order, with both zeros at the same place, and what
is not a number is left out.

**Main statements.**
* `Binary64.le_iff`: one number is at most another if its place is.
* `Binary64.le_self`, `Binary64.le_trans`, `Binary64.le_total`: the order on numbers.
-/

namespace Likeness
namespace Rounding

open Float.Model Float.Model.UnpackedFloat

theorem unpack_eq_notANumber_iff {b : BitVec 64} :
    UnpackedFloat.unpack .binary64 b = .notANumber ↔
      @unpackExponent .binary64 b = -1 ∧ @unpackMantissa .binary64 b ≠ 0 := by
  rcases unpack_cases b with
    ⟨_, whole, _, came⟩ | ⟨last, odd, came⟩ | ⟨inner, ⟨_, came⟩ | ⟨_, _, _, _, came, _⟩⟩
  · rw [came]
    exact ⟨nofun, fun both => absurd whole both.2⟩
  · exact ⟨fun _ => ⟨last, odd⟩, fun _ => came⟩
  · rw [came]
    exact ⟨nofun, fun both => absurd both.1 inner⟩
  · rw [came]
    exact ⟨nofun, fun both => absurd both.1 inner⟩

theorem unpackMantissa_pack_finite {sign : Sign} {m : Nat} {e : Int} {h : 0 < m}
    (last : @unpackExponent .binary64 (UnpackedFloat.pack .binary64 (.finite sign m e h)) = -1) :
    @unpackMantissa .binary64 (UnpackedFloat.pack .binary64 (.finite sign m e h)) = 0 := by
  rw [pack_finite] at last ⊢
  split_ifs at last ⊢ with large normal
  · exact unpackMantissa_packComponents
  · -- the exponent is cut off before the last one
    rw [unpackExponent_packComponents, ← BitVec.toNat_inj, BitVec.toNat_ofNat] at last
    generalize (e + _ + _ : Int).toNat = field at large last
    change field % 2 ^ 11 = 2047 at last
    change ¬ 2 ^ 11 ≤ field + 1 at large
    omega
  · rw [unpackExponent_packComponents] at last
    exact absurd last (by decide)

/-- What is packed is still a number. -/
theorem isNumber_unpack_pack {x : UnpackedFloat} (number : x ≠ .notANumber) :
    UnpackedFloat.unpack .binary64 (UnpackedFloat.pack .binary64 x) ≠ .notANumber := by
  rw [Ne, unpack_eq_notANumber_iff, not_and_not_right]
  intro last
  cases x with
  | infinity sign => exact unpackMantissa_packComponents
  | notANumber => exact absurd rfl number
  | zero sign => exact unpackMantissa_packComponents
  | finite sign m e h => exact unpackMantissa_pack_finite last

/-- Where a number stands: infinity, finite numbers by exponent and fraction, and zero. -/
def placeOf : UnpackedFloat → ℤ ×ₗ ℤ ×ₗ ℤ
  | .infinity .negative => toLex (-2, toLex (0, 0))
  | .finite .negative m e _ => toLex (-1, toLex (-e, -(m : ℤ)))
  | .zero _ => toLex (0, toLex (0, 0))
  | .notANumber => toLex (0, toLex (0, 0))
  | .finite .positive m e _ => toLex (1, toLex (e, (m : ℤ)))
  | .infinity .positive => toLex (2, toLex (0, 0))

theorem isLE_compare_then {e e' : ℤ} {m m' : ℕ} :
    ((compare e e').then (compare m m')).isLE = true ↔ e < e' ∨ e = e' ∧ m ≤ m' := by
  rw [Ordering.isLE_then_iff_or, Int.compare_eq_lt, Int.compare_eq_eq, Nat.isLE_compare]

theorem isLE_swap_compare_then {e e' : ℤ} {m m' : ℕ} :
    ((compare e e').then (compare m m')).swap.isLE = true ↔ e' < e ∨ e = e' ∧ m' ≤ m := by
  rw [Ordering.swap_then, Int.compare_swap, Nat.compare_swap, isLE_compare_then, eq_comm]

/-- Numbers of different kinds or signs are compared by these. -/
theorem le_iff_of_apart {x y : UnpackedFloat} {a b : ℤ} {p q : ℤ ×ₗ ℤ}
    (hx : placeOf x = toLex (a, p)) (hy : placeOf y = toLex (b, q)) (apart : a ≠ b)
    (same : x.le y = decide (a < b)) : x.le y = true ↔ placeOf x ≤ placeOf y := by
  rw [hx, hy, same, decide_eq_true_iff, Prod.Lex.toLex_le_toLex]
  exact ⟨Or.inl, fun h => h.resolve_right fun both => apart both.1⟩

/-- Of two negative numbers the places are compared the other way round, like the numbers. -/
theorem le_finite_iff (sign : Sign) {m m' : ℕ} {e e' : ℤ} {h : 0 < m} {h' : 0 < m'} :
    (UnpackedFloat.finite sign m e h).le (.finite sign m' e' h') = true ↔
      placeOf (.finite sign m e h) ≤ placeOf (.finite sign m' e' h') := by
  cases sign with
  | positive =>
      refine Iff.trans isLE_compare_then ?_
      change _ ↔ toLex ((1 : ℤ), toLex (e, (m : ℤ))) ≤ toLex (1, toLex (e', (m' : ℤ)))
      simp [Prod.Lex.toLex_le_toLex]
  | negative =>
      refine Iff.trans isLE_swap_compare_then ?_
      change _ ↔ toLex ((-1 : ℤ), toLex (-e, -(m : ℤ))) ≤ toLex (-1, toLex (-e', -(m' : ℤ)))
      simp [Prod.Lex.toLex_le_toLex]

theorem le_iff_placeOf_le {x y : UnpackedFloat} (hx : x ≠ .notANumber) (hy : y ≠ .notANumber) :
    x.le y = true ↔ placeOf x ≤ placeOf y := by
  cases x with
  | notANumber => exact absurd rfl hx
  | infinity sign =>
      cases y with
      | notANumber => exact absurd rfl hy
      | infinity sign' => cases sign <;> cases sign' <;> decide
      | zero sign' | finite sign' m' e' h' =>
          cases sign <;> cases sign' <;> exact le_iff_of_apart rfl rfl (by decide) rfl
  | zero sign =>
      cases y with
      | notANumber => exact absurd rfl hy
      | zero sign' => exact iff_of_true rfl le_rfl
      | infinity sign' | finite sign' m' e' h' =>
          cases sign' <;> exact le_iff_of_apart rfl rfl (by decide) rfl
  | finite sign m e h =>
      cases y with
      | notANumber => exact absurd rfl hy
      | infinity sign' | zero sign' =>
          cases sign <;> cases sign' <;> exact le_iff_of_apart rfl rfl (by decide) rfl
      | finite sign' m' e' h' =>
          by_cases same : sign = sign'
          · cases same
            exact le_finite_iff sign
          · cases sign <;> cases sign' <;>
              first
              | exact absurd rfl same
              | exact le_iff_of_apart rfl rfl (by decide) rfl

end Rounding

namespace Binary64

open Float.Model Float.Model.UnpackedFloat Rounding

/-- Place of a number in the numerical order. -/
def place (x : Binary64) : ℤ ×ₗ ℤ ×ₗ ℤ :=
  placeOf x.toFloat.toModel.unpack

theorem isNumber_of_isNaN {x : Binary64} (number : x.isNaN = false) :
    x.toFloat.toModel.unpack ≠ .notANumber := by
  refine isNumber_unpack_pack ?_
  rw [Ne, unpack_eq_notANumber_iff]
  rintro ⟨exponent, mantissa⟩
  rw [isNaN, exponentField_eq, fractionField_eq, exponent, Bool.and_eq_false_iff] at number
  rcases number with other | none
  · exact absurd other (by decide)
  · refine mantissa (BitVec.eq_of_toNat_eq ?_)
    simpa using none

variable {x y z : Binary64}

theorem le_iff (hx : x.isNaN = false) (hy : y.isNaN = false) :
    x.le y = true ↔ x.place ≤ y.place := by
  rw [place, place, ← le_iff_placeOf_le (isNumber_of_isNaN hx) (isNumber_of_isNaN hy), le,
    decide_eq_true_iff]
  exact decide_eq_true_iff

theorem le_self (hx : x.isNaN = false) : x.le x = true :=
  (le_iff hx hx).2 le_rfl

theorem le_trans (hx : x.isNaN = false) (hy : y.isNaN = false) (hz : z.isNaN = false)
    (first : x.le y = true) (second : y.le z = true) : x.le z = true :=
  (le_iff hx hz).2 (((le_iff hx hy).1 first).trans ((le_iff hy hz).1 second))

theorem le_total (hx : x.isNaN = false) (hy : y.isNaN = false) : x.le y = true ∨ y.le x = true := by
  rw [le_iff hx hy, le_iff hy hx]
  exact LinearOrder.le_total _ _

end Binary64
end Likeness
