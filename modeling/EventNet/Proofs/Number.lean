import EventNet.Number.Word
import Mathlib.Algebra.Order.Ring.Int

/-!
Numbers seen through their decoded form.
-/

namespace EventNet.Double

open Float.Model

/-! ### Comparing and cutting -/

theorem unpack_zero : (0 : Float).toModel.unpack = .zero .positive :=
  rfl

theorem le_iff {x y : Float} :
    x ≤ y ↔ UnpackedFloat.le x.toModel.unpack y.toModel.unpack = true :=
  decide_eq_true_iff

theorem lt_iff {x y : Float} :
    x < y ↔ UnpackedFloat.lt x.toModel.unpack y.toModel.unpack = true :=
  decide_eq_true_iff

/-- A number that is not below zero has no negative integer part. -/
theorem toInt64_nonneg {x : Float} (h : 0 ≤ x) : 0 ≤ toInt64 x := by
  have hle := le_iff.mp h
  rw [unpack_zero] at hle
  unfold toInt64
  split
  · exact Int.le_refl 0
  · exact Int.le_refl 0
  · rename_i hx
    rw [hx] at hle
    exact absurd hle Bool.false_ne_true
  · decide
  · rename_i s m e _ hx
    cases s with
    | negative =>
        rw [hx] at hle
        exact absurd hle Bool.false_ne_true
    | positive =>
        show 0 ≤ max minInt64 (min maxInt64 ((wholePart m e : Nat) : Int))
        unfold minInt64 maxInt64
        omega

theorem fits_toInt64 (x : Float) : Word.Fits (toInt64 x) := by
  unfold toInt64
  split
  · decide
  · decide
  · decide
  · decide
  · rename_i s m e _ _
    show minInt64 ≤ max minInt64 (min maxInt64 (s.apply (wholePart m e))) ∧
      max minInt64 (min maxInt64 (s.apply (wholePart m e))) ≤ maxInt64
    unfold minInt64 maxInt64
    omega

end EventNet.Double
