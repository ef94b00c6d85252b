import Likeness.Similarity
import Mathlib.Tactic.Positivity

/-!
# No similarity is minus zero

A similarity is one minus a quotient, moved into the interval from zero to one.  The difference of
one and another number is rounded, but it is no finer than the finest number there is, so what is
not zero stays so, and equal numbers have the difference plus zero.  Hence a similarity that is
zero has the bits of plus zero.

**Main statements.**
* `Rounding.round_spec`: a number that is no finer than the finest one is not rounded to zero.
* `Rounding.isPlain_one_sub`: what one minus a number comes to.
* `similarity_eq_zero`: a similarity that is zero.
-/

namespace Likeness
namespace Rounding

open Float.Model Float.Model.UnpackedFloat

theorem mantissa_shiftRight (em : ExtendedMantissa) (k : Nat) :
    (em >>> k).mantissa = em.mantissa / 2 ^ k := by
  induction k with
  | zero => simp [HShiftRight.hShiftRight, Nat.repeat]
  | succ k ih =>
      change (em >>> k).mantissa / 2 = _
      rw [ih, Nat.div_div_eq_div_mul, Nat.pow_succ]

theorem roundedMantissa_bounds (em : ExtendedMantissa) :
    em.mantissa ≤ em.roundedMantissa ∧ em.roundedMantissa ≤ em.mantissa + 1 := by
  cases em with
  | mk mantissa roundBit stickyBit =>
      cases roundBit <;> cases stickyBit <;>
        simp [ExtendedMantissa.roundedMantissa, ExtendedMantissa.accuracy,
          Accuracy.roundToNearestEven]
      omega

/-- How many places a number is shifted to be no longer than a fraction and no finer than the
finest one. -/
def shiftOf (m : Nat) (e : Int) : Nat :=
  (max (m.log2 + e - 52) (-1074) - e).toNat

theorem targetExponent_eq (m : Nat) (e : Int) :
    Format.binary64.targetExponent (totalExponent m e) = max (m.log2 + e - 52) (-1074) := by
  change max ((m.log2 : Int) + 1 + e - 53) (-1074) = _
  rw [show (m.log2 : Int) + 1 + e - 53 = m.log2 + e - 52 by omega]

theorem shiftToTargetExponent_eq (m : Nat) (e : Int) :
    (shiftToTargetExponent .binary64 m e .exact).1.mantissa = m / 2 ^ shiftOf m e ∧
      (shiftToTargetExponent .binary64 m e .exact).2 = e + shiftOf m e := by
  simp only [shiftToTargetExponent, shiftToExponent, targetExponent_eq, mantissa_shiftRight,
    shiftOf, and_true]
  rfl

theorem div_two_pow_lt {m k : Nat} (short : m.log2 ≤ 52 + k) : m / 2 ^ k < 2 ^ 53 := by
  rw [Nat.div_lt_iff_lt_mul (by positivity), ← Nat.pow_add]
  exact Nat.lt_of_lt_of_le Nat.lt_log2_self (Nat.pow_le_pow_right (by decide) (by omega))

theorem le_div_two_pow {m k : Nat} (positive : 0 < m) (long : m.log2 = 52 + k) :
    2 ^ 52 ≤ m / 2 ^ k := by
  rw [Nat.le_div_iff_mul_le (by positivity), ← Nat.pow_add, ← long]
  exact Nat.log2_self_le (by omega)

/-- A shifted number is not gone, and fits a fraction. -/
theorem shifted_bounds {m : Nat} {e : Int} (positive : 0 < m) (low : -1074 ≤ e) :
    0 < m / 2 ^ shiftOf m e ∧ m / 2 ^ shiftOf m e < 2 ^ 53 := by
  constructor
  · by_cases none : shiftOf m e = 0
    · rwa [none, Nat.pow_zero, Nat.div_one]
    · have long : m.log2 = 52 + shiftOf m e := by
        unfold shiftOf at *
        omega
      exact Nat.lt_of_lt_of_le (by decide) (le_div_two_pow positive long)
  · refine div_two_pow_lt ?_
    unfold shiftOf
    omega

theorem roundWithAccuracy_spec {m : Nat} {e : Int} (sign : Sign) (positive : 0 < m)
    (low : -1074 ≤ e) :
    ∃ m' e' h, roundWithAccuracy .binary64 sign m e .exact = .finite sign m' e' h ∧
      m' < 2 ^ 53 ∧ -1074 ≤ e' := by
  obtain ⟨floor, exponent⟩ := shiftToTargetExponent_eq m e
  have bounds := roundedMantissa_bounds (shiftToTargetExponent .binary64 m e .exact).1
  have shifted := shifted_bounds positive low
  rw [roundWithAccuracy]
  dsimp only
  generalize shiftToTargetExponent .binary64 m e .exact = first at *
  rw [floor] at bounds
  have low' : -1074 ≤ first.2 := by omega
  have positive' : 0 < first.1.roundedMantissa := by omega
  obtain ⟨floor', exponent'⟩ := shiftToTargetExponent_eq first.1.roundedMantissa first.2
  have shifted' := shifted_bounds positive' low'
  refine ⟨_, _, _, dif_neg ?_, ?_, ?_⟩
  · rw [floor']
    omega
  · rw [floor']
    exact shifted'.2
  · rw [exponent']
    omega

theorem round_spec {m : Nat} {e : Int} (sign : Sign) (positive : 0 < m) (low : -1074 ≤ e) :
    ∃ m' e' h, UnpackedFloat.round .binary64 sign m e = .finite sign m' e' h ∧ m' < 2 ^ 53 ∧
      -1074 ≤ e' := by
  rw [UnpackedFloat.round, decreaseExponent, targetExponent_eq]
  refine roundWithAccuracy_spec sign ?_ (by omega)
  rw [Nat.shiftLeft_eq]
  positivity

/-- A number that can be packed without loss is minus zero only if it says so. -/
def IsPlain : UnpackedFloat → Prop
  | .zero sign => sign = .positive
  | .finite _ m e _ => m < 2 ^ 53 ∧ -1074 ≤ e
  | _ => True

theorem isPlain_round {m : Nat} {e : Int} (sign : Sign) (positive : 0 < m) (low : -1074 ≤ e) :
    IsPlain (UnpackedFloat.round .binary64 sign m e) := by
  obtain ⟨m', e', h, came, facts⟩ := round_spec sign positive low
  rw [came]
  exact facts

theorem isPlain_normalize {m : Int} {e : Int} (low : -1074 ≤ e) :
    IsPlain (UnpackedFloat.normalize .binary64 m e .positive) := by
  unfold UnpackedFloat.normalize
  split
  · next less =>
      have := Int.compare_eq_lt.1 less
      exact isPlain_round .negative (by omega) low
  · rfl
  · next greater =>
      have := Int.compare_eq_gt.1 greater
      exact isPlain_round .positive (by omega) low

/-- What a bit pattern stands for, by its fields. -/
theorem unpack_cases (b : BitVec 64) :
    (@unpackExponent .binary64 b = -1 ∧ @unpackMantissa .binary64 b = 0 ∧
      ∃ sign, UnpackedFloat.unpack .binary64 b = .infinity sign) ∨
    (@unpackExponent .binary64 b = -1 ∧ @unpackMantissa .binary64 b ≠ 0 ∧
      UnpackedFloat.unpack .binary64 b = .notANumber) ∨
    @unpackExponent .binary64 b ≠ -1 ∧
      ((∃ sign, UnpackedFloat.unpack .binary64 b = .zero sign) ∨
        ∃ sign m e h, UnpackedFloat.unpack .binary64 b = .finite sign m e h ∧ -1074 ≤ e) := by
  by_cases last : @unpackExponent .binary64 b = -1
  · by_cases whole : @unpackMantissa .binary64 b = 0
    · exact Or.inl ⟨last, whole, _, (if_pos last).trans (if_pos whole)⟩
    · exact Or.inr (Or.inl ⟨last, whole, (if_pos last).trans (if_neg whole)⟩)
  refine Or.inr (Or.inr ⟨last, ?_⟩)
  by_cases least : @unpackExponent .binary64 b = 0
  · by_cases whole : @unpackMantissa .binary64 b = 0
    · exact Or.inl ⟨_, (if_neg last).trans ((if_pos least).trans (dif_pos whole))⟩
    · refine Or.inr ⟨_, _, _, _, (if_neg last).trans ((if_pos least).trans (dif_neg whole)), ?_⟩
      change -1074 ≤ ((@unpackExponent .binary64 b).toNat : Int) - ((1023 : Nat) + (52 : Nat)) + 1
      omega
  · refine Or.inr ⟨_, _, _, _, (if_neg last).trans (if_neg least), ?_⟩
    have exponent : (@unpackExponent .binary64 b).toNat ≠ 0 := fun none =>
      least (BitVec.eq_of_toNat_eq none)
    change -1074 ≤ ((@unpackExponent .binary64 b).toNat : Int) - ((1023 : Nat) + (52 : Nat))
    omega

theorem le_exponent_of_unpack {b : BitVec 64} {sign : Sign} {m : Nat} {e : Int} {h : 0 < m}
    (came : UnpackedFloat.unpack .binary64 b = .finite sign m e h) : -1074 ≤ e := by
  rcases unpack_cases b with
      ⟨_, _, _, other⟩ | ⟨_, _, other⟩ | ⟨_, ⟨_, other⟩ | ⟨_, _, _, _, other, low⟩⟩ <;>
    cases came.symm.trans other
  exact low

theorem pack_finite {sign : Sign} {m : Nat} {e : Int} {h : 0 < m} :
    UnpackedFloat.pack .binary64 (.finite sign m e h) =
      if 2 ^ 11 ≤ (e + 1023 + 52).toNat + 1 then packedInfinity .binary64 sign
      else if m.log2 + 1 = 53 then
        packComponents .binary64 sign (.ofNat 11 (e + 1023 + 52).toNat) (.ofNat 52 m)
      else packComponents .binary64 sign 0 (.ofNat 52 m) :=
  rfl

theorem isPlain_one_sub (q : Float) :
    IsPlain (sub .binary64 (1.0 : Float).toModel.unpack q.toModel.unpack) := by
  have one : (1.0 : Float).toModel.unpack = .finite .positive (2 ^ 52) (-52) (by decide) := rfl
  rw [one]
  cases came : q.toModel.unpack with
  | infinity sign => exact trivial
  | notANumber => exact trivial
  | zero sign => exact ⟨by decide, by decide⟩
  | finite sign m e h =>
      have low := le_exponent_of_unpack came
      exact isPlain_normalize (by omega)

end Rounding
namespace Binary64
open Float.Model Float.Model.UnpackedFloat Rounding

theorem exponentField_eq (x : Binary64) :
    x.exponentField = (@unpackExponent .binary64 x.bits.toBitVec).toNat := by
  simp [Binary64.exponentField, unpackExponent]

theorem fractionField_eq (x : Binary64) :
    x.fractionField = (@unpackMantissa .binary64 x.bits.toBitVec).toNat := by
  simp [Binary64.fractionField, unpackMantissa]

theorem isZero_packed_iff {sign : Sign} {e : BitVec 11} {m : BitVec 52} :
    (⟨.ofBitVec (packComponents .binary64 sign e m)⟩ : Binary64).isZero = true ↔ e = 0 ∧ m = 0 := by
  rw [isZero, exponentField_eq, fractionField_eq, Bool.and_eq_true, beq_iff_eq, beq_iff_eq,
    ← BitVec.toNat_inj, ← BitVec.toNat_inj]
  simp

theorem isZero_pack_finite {sign : Sign} {m : Nat} {e : Int} {h : 0 < m} (short : m < 2 ^ 53)
    (low : -1074 ≤ e) :
    ¬ (⟨.ofBitVec (UnpackedFloat.pack .binary64 (.finite sign m e h))⟩ : Binary64).isZero = true := by
  rw [pack_finite]
  by_cases large : 2 ^ 11 ≤ (e + 1023 + 52).toNat + 1
  · rw [if_pos large, packedInfinity, isZero_packed_iff]
    simp
  · rw [if_neg large]
    by_cases normal : m.log2 + 1 = 53
    · rw [if_pos normal, isZero_packed_iff, ← BitVec.toNat_inj, BitVec.toNat_ofNat]
      rintro ⟨none, _⟩
      change (e + 1023 + 52).toNat % 2 ^ 11 = 0 at none
      rw [Nat.mod_eq_of_lt (by omega)] at none
      omega
    · have long := (Nat.log2_lt (by omega)).2 short
      have subnormal : m < 2 ^ 52 := (Nat.log2_lt (by omega)).1 (by omega)
      rw [if_neg normal, isZero_packed_iff, ← BitVec.toNat_inj, ← BitVec.toNat_inj,
        BitVec.toNat_ofNat, Nat.mod_eq_of_lt subnormal]
      rintro ⟨_, none⟩
      exact absurd none (by simp; omega)

theorem eq_zero_of_pack {x : UnpackedFloat} (plain : IsPlain x)
    (zero : (⟨.ofBitVec (UnpackedFloat.pack .binary64 x)⟩ : Binary64).isZero = true) :
    (⟨.ofBitVec (UnpackedFloat.pack .binary64 x)⟩ : Binary64) = .zero := by
  cases x with
  | infinity sign =>
      change (⟨.ofBitVec (packedInfinity .binary64 sign)⟩ : Binary64).isZero = true at zero
      rw [packedInfinity, isZero_packed_iff] at zero
      simp at zero
  | notANumber =>
      change (⟨.ofBitVec (packComponents .binary64 .positive _ _)⟩ : Binary64).isZero = true at zero
      rw [isZero_packed_iff] at zero
      simp at zero
  | zero sign =>
      cases plain
      rfl
  | finite sign m e h => exact absurd zero (isZero_pack_finite plain.1 plain.2)

theorem eq_zero_of_one_sub {q : Float} (zero : (ofFloat (1.0 - q)).isZero = true) :
    ofFloat (1.0 - q) = .zero :=
  eq_zero_of_pack (isPlain_one_sub q) zero

end Binary64

/-- A similarity is zero only in one way. -/
theorem similarity_eq_zero {distance bound : Nat} (zero : (similarity distance bound).isZero = true) :
    similarity distance bound = .zero := by
  unfold similarity at *
  split at zero <;> rename_i none
  · rw [if_pos none]
    split at zero <;> rename_i same
    · cases zero
    · rw [if_neg same]
  · rw [if_neg none]
    generalize Float.ofNat distance / Float.ofNat bound = q at *
    unfold clampUnit at *
    split at zero
    · next less => rw [if_pos less]; decide +kernel
    · next least =>
        rw [if_neg least]
        split at zero
        · exact absurd zero (by decide +kernel)
        · next greatest =>
            rw [if_neg greatest]
            exact Binary64.eq_zero_of_one_sub zero
end Likeness
