import EventNet.Number.Layout
import EventNet.Proofs.Number.Whole

/-!
The sign of zero.

Zero and negative zero are equal as doubles, but JSON knows one of them only.  `plain` puts zero in
place of negative zero, so two numbers are equal up to the sign of zero when their plain forms are
one.  Arithmetic, comparisons and conversions to integers cannot tell a number from its plain form,
but for division by zero, whose result has the sign of the zero.
-/

namespace EventNet.Double

open Float.Model

/-- A decoded number with zero in place of negative zero. -/
def unsigned : UnpackedFloat → UnpackedFloat
  | .zero _ => .zero .positive
  | u => u

/-- A number with zero in place of negative zero. -/
def plain (x : Float) : Float :=
  match x.toModel.unpack with
  | .zero _ => 0
  | _ => x

theorem unpack_plain (x : Float) : (plain x).toModel.unpack = unsigned x.toModel.unpack := by
  unfold plain
  cases hx : x.toModel.unpack <;> first | exact hx | exact unpack_zero

theorem plain_of_zero {x : Float} {s : UnpackedFloat.Sign} (h : x.toModel.unpack = .zero s) :
    plain x = 0 := by
  unfold plain
  rw [h]

theorem plain_of_nonzero {x : Float} (h : ∀ s, x.toModel.unpack ≠ .zero s) : plain x = x := by
  unfold plain
  split
  · exact absurd ‹_› (h _)
  · rfl

@[simp] theorem plain_zero : plain 0 = 0 :=
  plain_of_zero unpack_zero

@[simp] theorem plain_plain (x : Float) : plain (plain x) = plain x := by
  rcases Classical.em (∃ s, x.toModel.unpack = .zero s) with ⟨s, hs⟩ | h
  · rw [plain_of_zero hs, plain_zero]
  · rw [plain_of_nonzero fun s hs => h ⟨s, hs⟩]
    exact plain_of_nonzero fun s hs => h ⟨s, hs⟩

/-- Numbers that decode alike up to the sign of zero are alike. -/
theorem plain_ofModel {u v : UnpackedFloat} (h : unsigned u = unsigned v) :
    plain (.ofModel (.pack u)) = plain (.ofModel (.pack v)) := by
  have hzero : ∀ s : UnpackedFloat.Sign, plain (.ofModel (.pack (.zero s))) = 0 := by
    intro s
    cases s <;> exact plain_of_zero rfl
  cases u <;> cases v <;> first
    | rw [hzero, hzero]
    | cases h <;> rfl

/-! ### Arithmetic -/

section Arithmetic

variable (x y : Float)

private theorem unsigned_add (u v : UnpackedFloat) :
    unsigned (.add .binary64 u v) = unsigned (.add .binary64 (unsigned u) (unsigned v)) := by
  cases u <;> cases v <;> first
    | rfl
    | (rename_i s t; cases s <;> cases t <;> rfl)

theorem plain_add : plain (x + y) = plain (plain x + plain y) := by
  refine plain_ofModel ?_
  rw [unpack_plain, unpack_plain]
  exact unsigned_add _ _

private theorem unsigned_sub (u v : UnpackedFloat) :
    unsigned (.sub .binary64 u v) = unsigned (.sub .binary64 (unsigned u) (unsigned v)) := by
  cases u <;> cases v <;> first
    | rfl
    | (rename_i s t; cases s <;> cases t <;> rfl)

theorem plain_sub : plain (x - y) = plain (plain x - plain y) := by
  refine plain_ofModel ?_
  rw [unpack_plain, unpack_plain]
  exact unsigned_sub _ _

theorem plain_mul : plain (x * y) = plain (plain x * plain y) := by
  refine plain_ofModel ?_
  rw [unpack_plain, unpack_plain]
  cases x.toModel.unpack <;> cases y.toModel.unpack <;> rfl

theorem plain_div (hy : (y == 0) = false) : plain (x / y) = plain (plain x / plain y) := by
  refine plain_ofModel ?_
  rw [unpack_plain, unpack_plain]
  have hzero : ∀ s, y.toModel.unpack ≠ .zero s := by
    intro s hs
    have hbeq : (y == 0) = UnpackedFloat.beq y.toModel.unpack (0 : Float).toModel.unpack := rfl
    rw [hbeq, hs, unpack_zero] at hy
    exact absurd (show true = false from hy) (by decide)
  cases x.toModel.unpack <;> cases hv : y.toModel.unpack <;> first
    | rfl
    | exact absurd hv (hzero _)

theorem plain_remainder : plain (remainder x y) = plain (remainder (plain x) (plain y)) := by
  unfold remainder
  rw [unpack_plain, unpack_plain]
  cases x.toModel.unpack <;> cases y.toModel.unpack <;> first
    | rfl
    | exact (plain_plain x).symm

theorem plain_neg : plain (-x) = plain (-plain x) := by
  refine plain_ofModel ?_
  rw [unpack_plain]
  cases x.toModel.unpack <;> rfl

theorem plain_abs : plain x.abs = plain (plain x).abs := by
  refine plain_ofModel ?_
  rw [unpack_plain]
  cases x.toModel.unpack <;> rfl

end Arithmetic

/-! ### Comparisons -/

section Comparisons

variable (x y : Float)

private theorem compare_unsigned (u v : UnpackedFloat) :
    UnpackedFloat.compare (unsigned u) (unsigned v) = u.compare v := by
  rcases u with s | - | s | ⟨s, m, e, hm⟩ <;> rcases v with t | - | t | ⟨t, n, f, hn⟩ <;> first
    | rfl
    | (cases s <;> cases t <;> rfl)

theorem beq_plain : (plain x == plain y) = (x == y) := by
  show ((plain x).toModel.unpack.compare (plain y).toModel.unpack == some .eq) = _
  rw [unpack_plain, unpack_plain, compare_unsigned]
  rfl

theorem beq_self_of_isFinite (h : x.isFinite = true) : (x == x) = true := by
  have hx : x.toModel.unpack.isFinite = true := h
  show (x.toModel.unpack.compare x.toModel.unpack == some .eq) = true
  rcases hu : x.toModel.unpack with s | - | s | ⟨s, m, e, hm⟩ <;> rw [hu] at hx
  · exact nomatch hx
  · exact nomatch hx
  · rfl
  · have hsame : (compare e e).then (compare m m) = .eq := by simp
    cases s with
    | positive =>
        show (some ((compare e e).then (compare m m)) == some .eq) = true
        rw [hsame]
        rfl
    | negative =>
        show (some ((compare e e).then (compare m m)).swap == some .eq) = true
        rw [hsame]
        rfl

theorem lt_plain : plain x < plain y ↔ x < y := by
  rw [lt_iff, lt_iff, unpack_plain, unpack_plain]
  unfold UnpackedFloat.lt
  rw [compare_unsigned]

theorem le_plain : plain x ≤ plain y ↔ x ≤ y := by
  rw [le_iff, le_iff, unpack_plain, unpack_plain]
  unfold UnpackedFloat.le
  rw [compare_unsigned]

theorem isNaN_plain : (plain x).isNaN = x.isNaN := by
  show UnpackedFloat.isNaN (plain x).toModel.unpack = UnpackedFloat.isNaN x.toModel.unpack
  rw [unpack_plain]
  cases x.toModel.unpack <;> rfl

theorem plain_lesser : plain (lesser x y) = lesser (plain x) (plain y) := by
  unfold lesser
  rw [isNaN_plain, apply_ite plain, apply_ite plain]
  simp only [lt_plain]

theorem plain_greater : plain (greater x y) = greater (plain x) (plain y) := by
  unfold greater
  rw [isNaN_plain, apply_ite plain, apply_ite plain]
  simp only [lt_plain]

end Comparisons

/-! ### Conversions -/

section Conversions

variable (x : Float)

theorem isIntegral_plain : isIntegral (plain x) = isIntegral x := by
  unfold isIntegral
  rw [unpack_plain]
  cases x.toModel.unpack <;> rfl

theorem toInt64_plain : toInt64 (plain x) = toInt64 x := by
  unfold toInt64
  rw [unpack_plain]
  cases x.toModel.unpack <;> rfl

theorem toIndex_plain : toIndex (plain x) = toIndex x := by
  unfold toIndex
  rw [unpack_plain]
  cases x.toModel.unpack <;> rfl

theorem isFinite_plain : (plain x).isFinite = x.isFinite := by
  show UnpackedFloat.isFinite (plain x).toModel.unpack = UnpackedFloat.isFinite x.toModel.unpack
  rw [unpack_plain]
  cases x.toModel.unpack <;> rfl

/-- Zero is a whole number. -/
theorem whole_of_zero {x : Float} {s : UnpackedFloat.Sign} (h : x.toModel.unpack = .zero s) :
    isIntegral x = true ∧ x.abs < 9223372036854775808 := by
  refine ⟨?_, lt_iff.mpr ?_⟩
  · unfold isIntegral
    rw [h]
  · have habs : x.abs.toModel.unpack = .zero .positive := by
      show (Float.Model.pack x.toModel.unpack.abs).unpack = _
      rw [h]
      show (Float.Model.pack (.zero .positive)).unpack = _
      rfl
    rw [habs]
    rfl

/-- The integer of a whole number of magnitude below 2^63 reads back as the number. -/
theorem ofInt_toInt64_plain {x : Float} (hwhole : isIntegral x = true)
    (hsmall : x.abs < 9223372036854775808) : ofInt (toInt64 x) = plain x := by
  cases hx : x.toModel.unpack with
  | finite s m e hm =>
      rw [ofInt_toInt64 hx hwhole hsmall]
      exact (plain_of_nonzero fun s hs =>
        UnpackedFloat.noConfusion (hx.symm.trans hs)).symm
  | zero s =>
      have hinteger : toInt64 x = 0 := by
        unfold toInt64
        rw [hx]
      rw [hinteger, plain_of_zero hx]
      rfl
  | infinity s => simp [isIntegral, hx] at hwhole
  | notANumber => simp [isIntegral, hx] at hwhole

end Conversions

end EventNet.Double
