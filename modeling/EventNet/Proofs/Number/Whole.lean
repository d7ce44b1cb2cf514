import EventNet.Proofs.Number

/-!
Whole numbers as integers and back.

A whole double of magnitude below 2^63 is `± m · 2 ^ e` with a significand of exactly 53 bits, so its
integer part is the number itself and lies within 64 bits.  Rounding that integer to a double shifts
its bits to a significand of 53 bits again without dropping any, which gives the same significand and
exponent, and those encode the number it began with.
-/

namespace EventNet.Double

open Float.Model Float.Model.UnpackedFloat

/-! ### Encoding -/

private theorem toBitVec_ofBitVec (v : BitVec 1) : (Sign.ofBitVec v).toBitVec = v := by
  have hall : ∀ v : BitVec 1, (Sign.ofBitVec v).toBitVec = v := by decide
  exact hall v

private theorem ofBitVec_toBitVec (s : Sign) : Sign.ofBitVec s.toBitVec = s := by
  cases s <;> rfl

/-- An encoding is made of its three fields. -/
private theorem packComponents_fields (b : BitVec Format.binary64.numBits) :
    packComponents .binary64 (Sign.ofBitVec (unpackSign b)) (unpackExponent b)
      (unpackMantissa b) = b := by
  unfold packComponents
  rw [toBitVec_ofBitVec]
  show b.extractLsb' 63 1 ++ b.extractLsb' 52 11 ++ b.extractLsb' 0 52 = b
  have hhigh : b.extractLsb' 63 1 ++ b.extractLsb' 52 11 = b.extractLsb' 52 12 :=
    BitVec.extractLsb'_append_extractLsb'_eq_extractLsb' rfl
  rw [hhigh]
  exact BitVec.extractLsb'_append_extractLsb'

theorem sign_packComponents (s : Sign) (e : BitVec Format.binary64.exponentBits)
    (m : BitVec Format.binary64.mantissaBitsWithoutImplicit) :
    Sign.ofBitVec (unpackSign (packComponents .binary64 s e m)) = s := by
  have hbit : unpackSign (packComponents .binary64 s e m) = s.toBitVec := by
    show (s.toBitVec ++ e ++ m).extractLsb' 63 1 = s.toBitVec
    rw [BitVec.extractLsb'_append_eq_of_le (by decide)]
    exact BitVec.extractLsb'_append_eq_left
  rw [hbit, ofBitVec_toBitVec]

private theorem toNat_implicit (v : BitVec 52) : (1#1 ++ v).toNat = 2 ^ 52 + v.toNat := by
  rw [BitVec.toNat_append, ← Nat.shiftLeft_add_eq_or_of_lt v.isLt]
  rfl

/-- A significand of 53 bits and its exponent. -/
structure Normal (m : Nat) (e : Int) : Prop where
  low : 2 ^ 52 ≤ m
  high : m < 2 ^ 53
  least : -1074 ≤ e
  greatest : e ≤ 971

/-- What a finite number decodes to: either its significand is full, or it is below all numbers of
full significand. -/
theorem unpack_finite {b : BitVec Format.binary64.numBits} {s : Sign} {m : Nat} {e : Int}
    {hm : 0 < m} (h : unpack .binary64 b = .finite s m e hm) :
    m < 2 ^ 52 ∧ e = -1074 ∨ Normal m e ∧ s = Sign.ofBitVec (unpackSign b) ∧
      m = 2 ^ 52 + (unpackMantissa b).toNat ∧ e = (unpackExponent b).toNat - 1075 := by
  have hmant : (unpackMantissa b).toNat < 2 ^ 52 := (unpackMantissa b).isLt
  have hexp : (unpackExponent b).toNat < 2 ^ 11 := (unpackExponent b).isLt
  unfold UnpackedFloat.unpack at h
  by_cases hones : unpackExponent b = -1#11
  · have hspecial := (if_pos hones).symm.trans h
    by_cases hnone : unpackMantissa b = 0#52
    · exact UnpackedFloat.noConfusion ((if_pos hnone).symm.trans hspecial)
    · exact UnpackedFloat.noConfusion ((if_neg hnone).symm.trans hspecial)
  have htop : (unpackExponent b).toNat ≠ 2 ^ 11 - 1 := fun heq =>
    hones (BitVec.eq_of_toNat_eq (heq.trans (by decide)))
  have hfields := (if_neg hones).symm.trans h
  by_cases hzero : unpackExponent b = 0#11
  · have hbelow := (if_pos hzero).symm.trans hfields
    by_cases hnone : unpackMantissa b = 0#52
    · exact UnpackedFloat.noConfusion ((dif_pos hnone).symm.trans hbelow)
    · injection (dif_neg hnone).symm.trans hbelow with hs hm he
      have hbias : (unpackExponent b).toNat = 0 := congrArg BitVec.toNat hzero
      refine Or.inl ⟨hm ▸ hmant, ?_⟩
      rw [← he, hbias]
      decide
  · injection (if_neg hzero).symm.trans hfields with hs hm he
    rw [toNat_implicit] at hm
    have he' : e = (unpackExponent b).toNat - 1075 := he.symm
    have hpos : (unpackExponent b).toNat ≠ 0 := fun heq =>
      hzero (BitVec.eq_of_toNat_eq heq)
    exact Or.inr ⟨⟨by omega, by omega, by omega, by omega⟩, hs.symm, hm.symm, he'⟩

private theorem log2_of_normal {m : Nat} (hlow : 2 ^ 52 ≤ m) (hhigh : m < 2 ^ 53) :
    m.log2 = 52 :=
  (Nat.log2_eq_iff (by omega)).mpr ⟨hlow, hhigh⟩

/-- How a number of full significand is encoded. -/
private theorem pack_normal {m : Nat} {e : Int} (h : Normal m e) (s : Sign) (hm : 0 < m) :
    pack .binary64 (.finite s m e hm) =
      packComponents .binary64 s (BitVec.ofNat 11 (e + 1075).toNat) (BitVec.ofNat 52 m) := by
  have hlog := log2_of_normal h.low h.high
  have hbiased : (e + (Format.binary64.exponentBias : Int) +
      (Format.binary64.mantissaBitsWithoutImplicit : Int)).toNat = (e + 1075).toNat :=
    congrArg Int.toNat (Int.add_assoc e 1023 52)
  have hfits : ¬ 2 ^ Format.binary64.exponentBits ≤ (e + 1075).toNat + 1 := by
    show ¬ 2 ^ 11 ≤ (e + 1075).toNat + 1
    have := h.greatest
    omega
  unfold UnpackedFloat.pack
  simp only [hbiased, hlog]
  rw [if_neg hfits, if_pos (by decide)]

private theorem toNat_biased {m : Nat} {e : Int} (h : Normal m e) :
    (BitVec.ofNat 11 (e + 1075).toNat).toNat = (e + 1075).toNat := by
  have := h.least
  have := h.greatest
  rw [BitVec.toNat_ofNat]
  exact Nat.mod_eq_of_lt (by omega)

private theorem toNat_fraction {m : Nat} {e : Int} (h : Normal m e) :
    (BitVec.ofNat 52 m).toNat = m - 2 ^ 52 := by
  have := h.low
  have := h.high
  rw [BitVec.toNat_ofNat]
  omega

/-- A number whose exponent field is neither the least nor the greatest has a full significand. -/
private theorem unpack_of_fields {b : BitVec Format.binary64.numBits} {s : Sign} {m : Nat} {e : Int}
    (hm : 0 < m) (hones : unpackExponent b ≠ -1#11) (hzero : unpackExponent b ≠ 0#11)
    (hs : Sign.ofBitVec (unpackSign b) = s) (hmant : (1#1 ++ unpackMantissa b).toNat = m)
    (hexp : ((unpackExponent b).toNat : Int) - (1023 + 52) = e) :
    unpack .binary64 b = .finite s m e hm := by
  subst hs hmant hexp
  unfold UnpackedFloat.unpack
  exact (if_neg hones).trans (if_neg hzero)

theorem unpack_pack_normal {m : Nat} {e : Int} (h : Normal m e) (s : Sign) (hm : 0 < m) :
    unpack .binary64 (pack .binary64 (.finite s m e hm)) = .finite s m e hm := by
  have hbiased := toNat_biased h
  have hfraction := toNat_fraction h
  have := h.low
  have := h.least
  have := h.greatest
  have hones : BitVec.ofNat 11 (e + 1075).toNat ≠ -1#11 := by
    intro heq
    have := congrArg BitVec.toNat heq
    rw [hbiased, show (-1#11).toNat = 2047 by decide] at this
    omega
  have hzero : BitVec.ofNat 11 (e + 1075).toNat ≠ 0#11 := by
    intro heq
    have := congrArg BitVec.toNat heq
    rw [hbiased, show (0#11).toNat = 0 by decide] at this
    omega
  have hm' : (1#1 ++ BitVec.ofNat 52 m).toNat = m := by
    rw [toNat_implicit, hfraction]
    omega
  have he' : ((e + 1075).toNat : Int) - (1023 + 52) = e := by omega
  rw [pack_normal h]
  refine unpack_of_fields hm ?_ ?_ (sign_packComponents _ _ _) ?_ ?_
  · rw [unpackExponent_packComponents]
    exact hones
  · rw [unpackExponent_packComponents]
    exact hzero
  · rw [unpackMantissa_packComponents]
    exact hm'
  · rw [unpackExponent_packComponents, hbiased]
    exact he'

/-- A number of full significand is encoded as it was. -/
theorem pack_unpack_normal {b : BitVec Format.binary64.numBits} {s : Sign} {m : Nat} {e : Int}
    {hm : 0 < m} (h : unpack .binary64 b = .finite s m e hm) (hlow : 2 ^ 52 ≤ m) :
    pack .binary64 (.finite s m e hm) = b := by
  rcases unpack_finite h with ⟨hhigh, -⟩ | ⟨hn, rfl, hmant, hexp⟩
  · omega
  rw [pack_normal hn]
  have hexp' : BitVec.ofNat 11 (e + 1075).toNat = unpackExponent b := by
    apply BitVec.eq_of_toNat_eq
    rw [toNat_biased hn]
    omega
  have hmant' : BitVec.ofNat 52 m = unpackMantissa b := by
    apply BitVec.eq_of_toNat_eq
    rw [toNat_fraction hn]
    omega
  rw [hexp', hmant', packComponents_fields]

/-! ### Rounding -/

/-- Doubling a significand and lowering its exponent leaves the first bit where it is. -/
private theorem totalExponent_shift {n : Nat} (hn : 0 < n) (e : Int) (k : Nat) :
    totalExponent (n * 2 ^ k) (e - k) = totalExponent n e := by
  have hpos : 0 < 2 ^ k := Nat.two_pow_pos k
  have hlog : (n * 2 ^ k).log2 = n.log2 + k := by
    refine (Nat.log2_eq_iff (Nat.mul_pos hn hpos).ne').mpr ⟨?_, ?_⟩
    · rw [Nat.pow_add]
      exact Nat.mul_le_mul_right _ (Nat.log2_self_le hn.ne')
    · rw [show n.log2 + k + 1 = n.log2 + 1 + k by omega, Nat.pow_add]
      exact Nat.mul_lt_mul_of_pos_right ((Nat.log2_lt hn.ne').mp (Nat.lt_succ_self _)) hpos
  unfold totalExponent
  rw [hlog]
  omega

/-- The exponent that rounding aims at is that of the number. -/
private theorem targetExponent_normal {m : Nat} {e : Int} (h : Normal m e) :
    Format.binary64.targetExponent (totalExponent m e) = e := by
  have := h.least
  unfold totalExponent
  rw [log2_of_normal h.low h.high]
  show max (((52 : Nat) : Int) + 1 + e - 53) (-1074) = e
  omega

/-- Shifting out zeros loses nothing. -/
private theorem shift_zeros (m k : Nat) :
    (⟨m * 2 ^ k, false, false⟩ : ExtendedMantissa) >>> k = ⟨m, false, false⟩ := by
  show Nat.repeat ExtendedMantissa.shiftRightOne k ⟨m * 2 ^ k, false, false⟩ = _
  induction k generalizing m with
  | zero => rw [Nat.pow_zero, Nat.mul_one]; rfl
  | succ k ih =>
      have hpow : m * 2 ^ (k + 1) = m * 2 * 2 ^ k := by
        rw [Nat.pow_succ, Nat.mul_comm (2 ^ k), Nat.mul_assoc]
      rw [hpow]
      show (Nat.repeat ExtendedMantissa.shiftRightOne k ⟨m * 2 * 2 ^ k, false, false⟩).shiftRightOne
        = _
      rw [ih]
      unfold ExtendedMantissa.shiftRightOne
      simp

/-- A number of full significand is found again from any longer form of it. -/
private theorem shiftToTargetExponent_normal {m : Nat} {e : Int} (h : Normal m e) (hm : 0 < m)
    (k : Nat) :
    shiftToTargetExponent .binary64 (m * 2 ^ k) (e - k) .exact = (⟨m, false, false⟩, e) := by
  have hshift : (e - (e - k)).toNat = k := by omega
  unfold shiftToTargetExponent
  rw [totalExponent_shift hm, targetExponent_normal h]
  unfold shiftToExponent
  simp only [hshift]
  rw [show ExtendedMantissa.ofMantissaAndAccuracy (m * 2 ^ k) .exact =
    ⟨m * 2 ^ k, false, false⟩ from rfl, shift_zeros]
  congr 1
  omega

private theorem roundWithAccuracy_normal {m : Nat} {e : Int} (h : Normal m e) (s : Sign)
    (hm : 0 < m) (k : Nat) :
    roundWithAccuracy .binary64 s (m * 2 ^ k) (e - k) .exact = .finite s m e hm := by
  have hagain := shiftToTargetExponent_normal h hm 0
  rw [Nat.pow_zero, Nat.mul_one, Int.natCast_zero, Int.sub_zero] at hagain
  have hexact : (⟨m, false, false⟩ : ExtendedMantissa).roundedMantissa = m := rfl
  unfold roundWithAccuracy
  rw [shiftToTargetExponent_normal h hm k]
  dsimp only
  rw [hexact, hagain]
  exact dif_neg hm.ne'

/-- Rounding lengthens a significand to the exponent its first bit asks for and then drops bits. -/
private theorem round_of_decreaseExponent {n m : Nat} {t e : Int} (s : Sign)
    (ht : Format.binary64.targetExponent (totalExponent n 0) = t)
    (hd : decreaseExponent n 0 t = (m, e)) :
    UnpackedFloat.round .binary64 s n 0 = roundWithAccuracy .binary64 s m e .exact := by
  unfold UnpackedFloat.round
  simp only [ht, hd]

private theorem round_of_longer {m k : Nat} (h : Normal m k) (s : Sign) (hm : 0 < m) :
    UnpackedFloat.round .binary64 s (m * 2 ^ k) 0 = .finite s m k hm := by
  have htarget := totalExponent_shift hm (k : Int) k
  have hround := roundWithAccuracy_normal h s hm k
  rw [Int.sub_self] at hround htarget
  have hkeep : (0 - (k : Int)).toNat = 0 := by omega
  have hsame : decreaseExponent (m * 2 ^ k) 0 k = (m * 2 ^ k, 0) := by
    unfold decreaseExponent
    rw [hkeep]
    rfl
  rw [round_of_decreaseExponent s (by rw [htarget, targetExponent_normal h]) hsame]
  exact hround

private theorem round_of_shorter {m n k : Nat} (h : Normal m (-(k : Int))) (s : Sign) (hm : 0 < m)
    (hn : n * 2 ^ k = m) : UnpackedFloat.round .binary64 s n 0 = .finite s m (-(k : Int)) hm := by
  have hpos : 0 < n := Nat.pos_of_ne_zero fun hz => hm.ne' (by rw [← hn, hz, Nat.zero_mul])
  have htarget := totalExponent_shift hpos 0 k
  rw [hn, Int.zero_sub] at htarget
  have hround := roundWithAccuracy_normal h s hm 0
  rw [Nat.pow_zero, Nat.mul_one, Int.natCast_zero, Int.sub_zero] at hround
  have hlonger : decreaseExponent n 0 (-(k : Int)) = (m, -(k : Int)) := by
    have happend : (0 - -(k : Int)).toNat = k := by omega
    show (n <<< (0 - -(k : Int)).toNat, 0 - ((0 - -(k : Int)).toNat : Int)) = _
    rw [happend, Nat.shiftLeft_eq, hn, Int.zero_sub]
  rw [round_of_decreaseExponent s (by rw [← htarget, targetExponent_normal h]) hlonger]
  exact hround

/-- A whole number of full significand is what its integer part is rounded to. -/
private theorem round_wholePart {m : Nat} {e : Int} (h : Normal m e) (s : Sign) (hm : 0 < m)
    (hwhole : 0 ≤ e ∨ m % 2 ^ (-e).toNat = 0) :
    UnpackedFloat.round .binary64 s (wholePart m e) 0 = .finite s m e hm := by
  by_cases he : 0 ≤ e
  · -- the integer part is the significand with zeros appended
    obtain ⟨k, rfl⟩ := Int.eq_ofNat_of_zero_le he
    have hpart : wholePart m (k : Int) = m * 2 ^ k := if_pos he
    rw [hpart]
    exact round_of_longer h s hm
  · -- the significand is the integer part with zeros appended
    obtain ⟨k, rfl⟩ : ∃ k : Nat, e = -k := ⟨(-e).toNat, by omega⟩
    have hzeros := hwhole.resolve_left he
    rw [Int.neg_neg] at hzeros
    have hpart : wholePart m (-(k : Int)) = m / 2 ^ k := by
      unfold wholePart
      rw [if_neg he, Int.neg_neg]
      rfl
    rw [hpart]
    exact round_of_shorter h s hm (Nat.div_mul_cancel (Nat.dvd_of_mod_eq_zero hzeros))

/-! ### Whole numbers within 64 bits -/

/-- The number 2^63. -/
private theorem unpack_limit :
    (9223372036854775808 : Float).toModel.unpack = .finite .positive (2 ^ 52) 11 (by decide) :=
  rfl

private theorem exponent_of_small {x : Float} {s : Sign} {m : Nat} {e : Int} {hm : 0 < m}
    (hx : x.toModel.unpack = .finite s m e hm) (h : Normal m e)
    (hsmall : x.abs < 9223372036854775808) : e ≤ 10 := by
  have habs : x.abs.toModel.unpack = .finite .positive m e hm := by
    show UnpackedFloat.unpack .binary64 (UnpackedFloat.pack .binary64 x.toModel.unpack.abs) = _
    rw [hx]
    exact unpack_pack_normal h .positive hm
  have hlt := lt_iff.mp hsmall
  rw [habs, unpack_limit] at hlt
  have hcmp : ((compare e 11).then (compare m (2 ^ 52))) = .lt :=
    Option.some.inj (eq_of_beq hlt)
  rcases Int.lt_trichotomy e 11 with he | he | he
  · omega
  · have hm52 : m < 2 ^ 52 := by
      rw [he] at hcmp
      exact Nat.compare_eq_lt.mp (by simpa using hcmp)
    exact absurd h.low (Nat.not_le_of_lt hm52)
  · rw [Int.compare_eq_gt.mpr he] at hcmp
    exact Ordering.noConfusion (show Ordering.gt = .lt from hcmp)

private theorem wholePart_lt {m : Nat} {e : Int} (h : Normal m e) (he : e ≤ 10) :
    wholePart m e < 2 ^ 63 := by
  have hhigh := h.high
  unfold wholePart
  by_cases hneg : 0 ≤ e
  · rw [if_pos hneg]
    have hpow : 2 ^ e.toNat ≤ 2 ^ 10 := Nat.pow_le_pow_right (by decide) (by omega)
    calc m * 2 ^ e.toNat ≤ m * 2 ^ 10 := Nat.mul_le_mul_left m hpow
      _ < 2 ^ 53 * 2 ^ 10 := Nat.mul_lt_mul_of_pos_right hhigh (by decide)
      _ = 2 ^ 63 := by decide
  · rw [if_neg hneg]
    exact Nat.lt_of_le_of_lt (Nat.div_le_self ..) (Nat.lt_trans hhigh (by decide))

/-- A whole number is decoded with a full significand, unless it is zero. -/
private theorem normal_of_isIntegral {x : Float} {s : Sign} {m : Nat} {e : Int} {hm : 0 < m}
    (hx : x.toModel.unpack = .finite s m e hm) (hwhole : isIntegral x = true) :
    Normal m e ∧ (0 ≤ e ∨ m % 2 ^ (-e).toNat = 0) := by
  have hdigits : 0 ≤ e ∨ m % 2 ^ (-e).toNat = 0 := by
    unfold isIntegral at hwhole
    rw [hx] at hwhole
    simpa using hwhole
  rcases unpack_finite hx with ⟨hlow, he⟩ | ⟨hn, -⟩
  · have hlt : m < 2 ^ (-e).toNat :=
      Nat.lt_of_lt_of_le hlow (Nat.pow_le_pow_right (by decide) (by omega))
    have hzero := hdigits.resolve_left (by omega)
    rw [Nat.mod_eq_of_lt hlt] at hzero
    omega
  · exact ⟨hn, hdigits⟩

private theorem model_ext {a b : Float.Model} (h : a.toBits = b.toBits) : a = b := by
  cases a
  cases b
  cases h
  rfl

/-- **A whole number other than zero, of magnitude below 2^63, comes back from its integer.** -/
theorem ofInt_toInt64 {x : Float} {s : Sign} {m : Nat} {e : Int} {hm : 0 < m}
    (hx : x.toModel.unpack = .finite s m e hm) (hwhole : isIntegral x = true)
    (hsmall : x.abs < 9223372036854775808) : ofInt (toInt64 x) = x := by
  obtain ⟨hn, hdigits⟩ := normal_of_isIntegral hx hwhole
  have hround := round_wholePart hn s hm hdigits
  have hlt := wholePart_lt hn (exponent_of_small hx hn hsmall)
  have hinteger : toInt64 x = s.apply (wholePart m e) := by
    unfold toInt64
    rw [hx]
    cases s <;> simp only [Sign.apply, minInt64, maxInt64] <;> omega
  have hpos : 0 < wholePart m e := by
    refine Nat.pos_of_ne_zero fun hz => ?_
    have hzero : UnpackedFloat.round .binary64 s 0 0 = .zero s := by cases s <;> rfl
    rw [hz, hzero] at hround
    exact UnpackedFloat.noConfusion hround
  have hnormalize : UnpackedFloat.normalize .binary64 (toInt64 x) 0 .positive = .finite s m e hm := by
    rw [hinteger, ← hround]
    unfold UnpackedFloat.normalize
    cases s with
    | positive =>
        have hgt : compare ((wholePart m e : Nat) : Int) 0 = .gt :=
          Int.compare_eq_gt.mpr (by omega)
        simp only [Sign.apply, hgt, Int.toNat_natCast]
    | negative =>
        have hlt : compare (-((wholePart m e : Nat) : Int)) 0 = .lt :=
          Int.compare_eq_lt.mpr (by omega)
        simp only [Sign.apply, hlt, Int.neg_neg, Int.toNat_natCast]
  have hbits : Float.Model.pack (.finite s m e hm) = x.toModel := by
    have := pack_unpack_normal hx hn.low
    exact model_ext (congrArg UInt64.ofBitVec this)
  unfold ofInt ofScaled
  rw [hnormalize, hbits]

end EventNet.Double
