import EventNet.Proofs.Number.Whole

/-!
Sums that are not below zero.

Rounding and encoding keep the sign of an exact result, so numbers that are not below zero have such a
sum, and so has a number with the negative of one that it is not less than.  What is not a number is
not below zero either.
-/

namespace EventNet.Double

open Float.Model Float.Model.UnpackedFloat

/-- A decoded number that is not below zero. -/
def AtLeastZero : UnpackedFloat → Prop
  | .infinity .negative => False
  | .finite .negative _ _ _ => False
  | _ => True

theorem not_lt_zero_iff {x : Float} : ¬ x < 0 ↔ AtLeastZero x.toModel.unpack := by
  rw [lt_iff, unpack_zero]
  rcases x.toModel.unpack with (_ | _) | _ | s | ⟨_ | _, m, e, hm⟩
  · exact iff_of_false (fun h => h rfl) id
  · exact iff_of_true nofun trivial
  · exact iff_of_true nofun trivial
  · exact iff_of_true nofun trivial
  · exact iff_of_false (fun h => h rfl) id
  · exact iff_of_true nofun trivial

theorem not_lt_zero_of_pos {x : Float} (h : 0 < x) : ¬ x < 0 := by
  have hpos := lt_iff.mp h
  rw [not_lt_zero_iff]
  rw [unpack_zero] at hpos
  rcases hx : x.toModel.unpack with (_ | _) | _ | s | ⟨_ | _, m, e, hm⟩
  · rw [hx] at hpos
    cases hpos
  · trivial
  · trivial
  · trivial
  · rw [hx] at hpos
    cases hpos
  · trivial

/-! ### Encoding keeps the sign -/

section

variable {c : Prop} [Decidable c]

theorem AtLeastZero.ite {u v : UnpackedFloat} (hu : AtLeastZero u) (hv : AtLeastZero v) :
    AtLeastZero (if c then u else v) :=
  iteInduction (motive := AtLeastZero) (fun _ => hu) (fun _ => hv)

theorem AtLeastZero.dite {u : c → UnpackedFloat} {v : ¬ c → UnpackedFloat}
    (hu : ∀ h, AtLeastZero (u h)) (hv : ∀ h, AtLeastZero (v h)) :
    AtLeastZero (if h : c then u h else v h) := by
  by_cases h : c
  · rw [dif_pos h]
    exact hu h
  · rw [dif_neg h]
    exact hv h

end

/-- An encoding without sign bit is of a number that is not below zero. -/
theorem atLeastZero_unpack {b : BitVec Format.binary64.numBits}
    (h : Sign.ofBitVec (unpackSign b) = .positive) : AtLeastZero (unpack .binary64 b) := by
  unfold UnpackedFloat.unpack
  extract_lets mantissa exponentField exponent signField sign
  have hsign : sign = .positive := h
  clear_value sign
  subst hsign
  refine .ite (.ite trivial trivial) (.ite ?_ trivial)
  exact .dite (fun _ => trivial) (fun _ => trivial)

theorem AtLeastZero.encode {u : UnpackedFloat} (h : AtLeastZero u) :
    AtLeastZero (unpack .binary64 (pack .binary64 u)) := by
  rcases u with (_ | _) | _ | (_ | _) | ⟨_ | _, m, e, hm⟩
  · exact h.elim
  · trivial
  · trivial
  · trivial
  · trivial
  · exact h.elim
  · unfold UnpackedFloat.pack
    simp only
    split
    · trivial
    · split <;> exact atLeastZero_unpack (sign_packComponents _ _ _)

/-! ### Rounding keeps the sign -/

theorem atLeastZero_round (m : Nat) (e : Int) :
    AtLeastZero (UnpackedFloat.round .binary64 .positive m e) := by
  unfold UnpackedFloat.round UnpackedFloat.roundWithAccuracy
  exact .dite (fun _ => trivial) (fun _ => trivial)

theorem atLeastZero_normalize {m : Int} (h : 0 ≤ m) (e : Int) :
    AtLeastZero (normalize .binary64 m e .positive) := by
  unfold UnpackedFloat.normalize
  split
  · rename_i hlt
    exact absurd (Int.compare_eq_lt.mp hlt) (Int.not_lt.mpr h)
  · trivial
  · exact atLeastZero_round _ _

/-- Two finite numbers as integers at the smaller of their exponents. -/
theorem add_finite (s t : Sign) {m n : Nat} {e f : Int} (hm : 0 < m) (hn : 0 < n) :
    UnpackedFloat.add .binary64 (.finite s m e hm) (.finite t n f hn) =
      normalize .binary64 (s.apply (m <<< (e - min e f).toNat : Nat) +
        t.apply (n <<< (f - min e f).toNat : Nat)) (min e f) .positive :=
  rfl

theorem AtLeastZero.add {u v : UnpackedFloat} (hu : AtLeastZero u) (hv : AtLeastZero v) :
    AtLeastZero (.add .binary64 u v) := by
  rcases u with (_ | _) | _ | (_ | _) | ⟨_ | _, m, e, hm⟩ <;>
    rcases v with (_ | _) | _ | (_ | _) | ⟨_ | _, n, f, hn⟩ <;>
    first
      | exact hu.elim
      | exact hv.elim
      | trivial
      | skip
  rw [add_finite]
  refine atLeastZero_normalize ?_ _
  exact Int.add_nonneg (Int.natCast_nonneg _) (Int.natCast_nonneg _)

/-- The sum of numbers that are not below zero. -/
theorem not_lt_zero_add {x y : Float} (hx : ¬ x < 0) (hy : ¬ y < 0) : ¬ x + y < 0 := by
  rw [not_lt_zero_iff] at *
  exact (hx.add hy).encode

/-! ### Differences -/

/-- A number whose exponent field is the least is its fraction at the least exponent. -/
theorem unpack_of_low_fields {b : BitVec Format.binary64.numBits} {s : Sign} {m : Nat} (hm : 0 < m)
    (hzero : unpackExponent b = 0#11) (hs : Sign.ofBitVec (unpackSign b) = s)
    (hmant : (unpackMantissa b).toNat = m) : unpack .binary64 b = .finite s m (-1074) hm := by
  subst hs hmant
  have hones : unpackExponent b ≠ -1#11 := by
    rw [hzero]
    decide
  have hfraction : unpackMantissa b ≠ 0#52 := by
    intro heq
    rw [heq] at hm
    exact absurd hm (by decide)
  have hleast : ((unpackExponent b).toNat : Int) - (1023 + 52) + 1 = -1074 := by
    rw [hzero]
    decide
  unfold UnpackedFloat.unpack
  refine (if_neg hones).trans ((if_pos hzero).trans ((dif_neg hfraction).trans ?_))
  congr 1

/-- A number below all of full significand is decoded as it was encoded. -/
theorem unpack_pack_subnormal {m : Nat} (hm : 0 < m) (hhigh : m < 2 ^ 52) (s : Sign) :
    unpack .binary64 (pack .binary64 (.finite s m (-1074) hm)) = .finite s m (-1074) hm := by
  have hlog : ¬ m.log2 + 1 = Format.binary64.mantissaBits := by
    have hlt := (Nat.log2_lt hm.ne').mpr hhigh
    show ¬ m.log2 + 1 = 53
    omega
  have hpack : pack .binary64 (.finite s m (-1074) hm) =
      packComponents .binary64 s (0#11) (BitVec.ofNat 52 m) := by
    unfold UnpackedFloat.pack
    exact if_neg hlog
  have hmant : (BitVec.ofNat 52 m).toNat = m := by
    rw [BitVec.toNat_ofNat]
    exact Nat.mod_eq_of_lt hhigh
  rw [hpack]
  refine unpack_of_low_fields hm ?_ (sign_packComponents _ _ _) ?_
  · exact unpackExponent_packComponents
  · rw [unpackMantissa_packComponents]
    exact hmant

theorem unpack_neg (x : Float) : (-x).toModel.unpack = x.toModel.unpack.neg := by
  show unpack .binary64 (pack .binary64 x.toModel.unpack.neg) = _
  cases hx : x.toModel.unpack with
  | infinity s => cases s <;> rfl
  | notANumber => rfl
  | zero s => cases s <;> rfl
  | finite s m e hm =>
      rcases unpack_finite hx with ⟨hhigh, rfl⟩ | ⟨hnormal, -⟩
      · exact unpack_pack_subnormal hm hhigh (-s)
      · exact unpack_pack_normal hnormal (-s) hm

theorem apply_neg (s : Sign) (m : Int) : (-s).apply m = -s.apply m := by
  cases s with
  | negative => exact (Int.neg_neg m).symm
  | positive => rfl

theorem sub_finite (s t : Sign) {m n : Nat} {e f : Int} (hm : 0 < m) (hn : 0 < n) :
    UnpackedFloat.sub .binary64 (.finite s m e hm) (.finite t n f hn) =
      normalize .binary64 (s.apply (m <<< (e - min e f).toNat : Nat) -
        t.apply (n <<< (f - min e f).toNat : Nat)) (min e f) .positive :=
  rfl

theorem sub_unpacked (u v : UnpackedFloat) :
    UnpackedFloat.sub .binary64 u v = .add .binary64 u v.neg := by
  rcases u with s | _ | s | ⟨s, m, e, hm⟩ <;> rcases v with t | _ | t | ⟨t, n, f, hn⟩ <;> try rfl
  show _ = UnpackedFloat.add .binary64 (.finite s m e hm) (.finite (-t) n f hn)
  rw [sub_finite, add_finite, apply_neg]
  rfl

/-- To take a number away is to add its negative. -/
theorem sub_eq_add_neg (x y : Float) : x - y = x + -y := by
  show Float.ofModel (.pack (.sub .binary64 x.toModel.unpack y.toModel.unpack)) =
    .ofModel (.pack (.add .binary64 x.toModel.unpack (-y).toModel.unpack))
  rw [unpack_neg, sub_unpacked]

/-- Numbers whose significands are as long as they can be are ordered by exponent first. -/
theorem shifted_le {x y : Float} {s t : Sign} {m n : Nat} {e f : Int} {hm : 0 < m} {hn : 0 < n}
    (hx : x.toModel.unpack = .finite s m e hm) (hy : y.toModel.unpack = .finite t n f hn)
    (h : e < f ∨ e = f ∧ m ≤ n) :
    m <<< (e - min f e).toNat ≤ n <<< (f - min f e).toNat := by
  rcases h with hlt | ⟨rfl, hle⟩
  · have hmin : min f e = e := Int.min_eq_right (Int.le_of_lt hlt)
    have hleast : -1074 ≤ e ∧ m < 2 ^ 53 := by
      rcases unpack_finite hx with ⟨hhigh, rfl⟩ | ⟨hnormal, -⟩
      · exact ⟨Int.le_refl _, by omega⟩
      · exact ⟨hnormal.least, hnormal.high⟩
    have hlow : 2 ^ 52 ≤ n := by
      rcases unpack_finite hy with ⟨-, rfl⟩ | ⟨hnormal, -⟩
      · omega
      · exact hnormal.low
    obtain ⟨k, hk⟩ : ∃ k, (f - e).toNat = k + 1 := ⟨(f - e).toNat - 1, by omega⟩
    have hself : (e - e).toNat = 0 := by omega
    rw [hmin, hself, hk, Nat.shiftLeft_zero, Nat.shiftLeft_eq, Nat.pow_succ]
    have hpow : 1 ≤ 2 ^ k := Nat.one_le_two_pow
    calc m ≤ 2 ^ 52 * (1 * 2) := by omega
      _ ≤ n * (2 ^ k * 2) := Nat.mul_le_mul hlow (Nat.mul_le_mul_right 2 hpow)
  · have hself : (e - min e e).toNat = 0 := by omega
    rw [hself]
    exact hle

/-- How finite positive numbers are compared. -/
theorem le_of_le_positive {m n : Nat} {e f : Int} {hm : 0 < m} {hn : 0 < n}
    (h : UnpackedFloat.le (.finite .positive m e hm) (.finite .positive n f hn) = true) :
    e < f ∨ e = f ∧ m ≤ n := by
  have hcompare : ((compare e f).then (compare m n)).isLE = true := h
  rcases Int.lt_trichotomy e f with hlt | rfl | hgt
  · exact Or.inl hlt
  · have hself : compare e e = .eq := Int.compare_eq_eq.mpr rfl
    rw [hself] at hcompare
    exact Or.inr ⟨rfl, Nat.isLE_compare.mp hcompare⟩
  · rw [Int.compare_eq_gt.mpr hgt] at hcompare
    cases hcompare

/-- The difference of a decoded number and a positive one that is not greater, where the shifted
significands are in the order of the numbers. -/
theorem atLeastZero_sub {u v : UnpackedFloat} (hpos : UnpackedFloat.lt (.zero .positive) v = true)
    (hle : UnpackedFloat.le v u = true)
    (hshifted : ∀ m e hm n f hn, v = .finite .positive m e hm → u = .finite .positive n f hn →
      m <<< (e - min f e).toNat ≤ n <<< (f - min f e).toNat) :
    AtLeastZero (.add .binary64 u v.neg) := by
  rcases v with (_ | _) | _ | s | ⟨_ | _, m, e, hm⟩
  · cases hpos
  · -- only infinity is not less than infinity, and their difference is no number
    rcases u with (_ | _) | _ | t | ⟨_ | _, n, f, hn⟩ <;> trivial
  · cases hpos
  · cases hpos
  · cases hpos
  · rcases u with (_ | _) | _ | t | ⟨_ | _, n, f, hn⟩
    · cases hle
    · trivial
    · cases hle
    · cases hle
    · cases hle
    · have horder := hshifted m e hm n f hn rfl rfl
      show AtLeastZero (.add .binary64 (.finite .positive n f hn) (.finite .negative m e hm))
      rw [add_finite]
      refine atLeastZero_normalize ?_ _
      simp only [Sign.apply]
      omega

/-- The difference of a number and a positive one that is not greater. -/
theorem not_lt_zero_sub {x y : Float} (hx : 0 < x) (h : x ≤ y) : ¬ y + -x < 0 := by
  have hpos := lt_iff.mp hx
  have hle := le_iff.mp h
  rw [unpack_zero] at hpos
  rw [not_lt_zero_iff]
  show AtLeastZero (unpack .binary64 (pack .binary64
    (.add .binary64 y.toModel.unpack (-x).toModel.unpack)))
  rw [unpack_neg]
  refine (atLeastZero_sub hpos hle ?_).encode
  intro m e hm n f hn hxu hyu
  rw [hxu, hyu] at hle
  exact shifted_le hxu hyu (le_of_le_positive hle)

end EventNet.Double
