import EventNet.Proofs.Number
import Mathlib.Algebra.Field.Rat
import Mathlib.Algebra.Order.Field.Rat
import Mathlib.Algebra.Order.Field.Power

/-!
The rational number that a double stands for.

A finite double is `± m · 2 ^ e`, which is a rational number; infinities and what is not a number stand
for none.  Whether a double can be a list position is decided on the significand and the exponent, and
is shown here to be whether its number is a natural one.
-/

namespace EventNet.Double

open Float.Model

/-- The number that a double stands for, if it is finite. -/
def value? (x : Float) : Option ℚ :=
  match x.toModel.unpack with
  | .zero _ => some 0
  | .finite s m e _ => some (s.apply m * 2 ^ e)
  | _ => none

/-- Whether a double is taken as a list position. -/
def isPosition (x : Float) : Bool :=
  0 ≤ x && isIntegral x

/-- An exponent that is not negative shifts to the left. -/
private theorem scaled_of_nonneg (m : Nat) {e : Int} (he : 0 ≤ e) :
    (m : ℚ) * 2 ^ e = ((m * 2 ^ e.toNat : Nat) : ℚ) := by
  have hpow : (2 : ℚ) ^ e = 2 ^ e.toNat := by
    conv_lhs => rw [← Int.toNat_of_nonneg he]
    exact zpow_natCast 2 e.toNat
  rw [hpow]
  push_cast
  rfl

/-- A negative exponent divides. -/
private theorem scaled_eq_iff (m n : Nat) {e : Int} (he : e < 0) :
    (m : ℚ) * 2 ^ e = n ↔ m = n * 2 ^ (-e).toNat := by
  have hpow : (2 : ℚ) ^ e = (2 ^ (-e).toNat)⁻¹ := by
    rw [← zpow_natCast, Int.toNat_of_nonneg (by omega), zpow_neg, inv_inv]
  rw [hpow, ← div_eq_mul_inv, div_eq_iff (pow_ne_zero _ two_ne_zero)]
  exact_mod_cast Iff.rfl

/-- The positions of `m · 2 ^ e`. -/
private theorem scaled_position (m n : Nat) (e : Int) :
    (decide (0 ≤ e) || m % Nat.pow 2 (-e).toNat == 0) = true ∧ wholePart m e = n ↔
      (m : ℚ) * 2 ^ e = n := by
  unfold wholePart
  by_cases he : 0 ≤ e
  · rw [if_pos he, decide_eq_true he, scaled_of_nonneg m he, Nat.cast_inj]
    simp
  · have hneg : e < 0 := Int.not_le.mp he
    have hpos : 0 < 2 ^ (-e).toNat := Nat.two_pow_pos _
    rw [if_neg he, decide_eq_false he, scaled_eq_iff m n hneg, Bool.false_or, beq_iff_eq]
    show m % 2 ^ (-e).toNat = 0 ∧ m / 2 ^ (-e).toNat = n ↔ m = n * 2 ^ (-e).toNat
    constructor
    · rintro ⟨hmod, rfl⟩
      exact (Nat.div_mul_cancel (Nat.dvd_of_mod_eq_zero hmod)).symm
    · rintro rfl
      exact ⟨Nat.mul_mod_left _ _, Nat.mul_div_cancel _ hpos⟩

/-- **A double is the list position `n` exactly when it stands for the natural number `n`.**  Negative
numbers, fractions, infinities and what is not a number are no positions. -/
theorem position_iff (x : Float) (n : Nat) :
    isPosition x = true ∧ toIndex x = n ↔ value? x = some (n : ℚ) := by
  unfold isPosition value? isIntegral toIndex
  rw [Bool.and_eq_true, decide_eq_true_iff, le_iff, unpack_zero]
  cases hx : x.toModel.unpack with
  | zero s =>
      have hle : UnpackedFloat.le (.zero .positive) (.zero s) = true := by cases s <;> rfl
      simp [hle, eq_comm]
  | notANumber => simp
  | infinity s => simp
  | finite s m e hm =>
      cases s with
      | positive =>
          have hle : UnpackedFloat.le (.zero .positive) (.finite .positive m e hm) = true := rfl
          have hcast : ((UnpackedFloat.Sign.positive.apply (m : Int) : Int) : ℚ) = (m : ℚ) :=
            Int.cast_natCast m
          rw [hle]
          dsimp only
          simp only [true_and, hcast, Option.some.injEq]
          exact scaled_position m n e
      | negative =>
          have hle : UnpackedFloat.le (.zero .positive) (.finite .negative m e hm) = false := rfl
          have hcast : ((UnpackedFloat.Sign.negative.apply (m : Int) : Int) : ℚ) = -(m : ℚ) := by
            show (((-(m : Int)) : Int) : ℚ) = _
            push_cast
            rfl
          have hbelow : -(m : ℚ) * 2 ^ e < 0 :=
            mul_neg_of_neg_of_pos (neg_neg_of_pos (Nat.cast_pos.mpr hm)) (zpow_pos two_pos e)
          rw [hle]
          dsimp only
          simp only [Bool.false_eq_true, false_and, hcast, Option.some.injEq, false_iff]
          exact ne_of_lt (lt_of_lt_of_le hbelow (Nat.cast_nonneg n))

theorem isPosition_of_value? {x : Float} {n : Nat} (h : value? x = some (n : ℚ)) :
    isPosition x = true ∧ toIndex x = n :=
  (position_iff x n).mpr h

theorem value?_toIndex {x : Float} (h : isPosition x = true) : value? x = some (toIndex x : ℚ) :=
  (position_iff x _).mp ⟨h, rfl⟩

end EventNet.Double
