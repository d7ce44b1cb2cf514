/-!
Exact operations on double precision numbers.

A double is either not finite or `± m · 2 ^ e`.  The operations here decode it once and then work on
integers, so that what they answer is exact by construction: the integer part, whether there is a
fraction, the remainder of a division, and the double nearest to an integer.
-/

namespace EventNet.Double

open Float.Model

/-- The double nearest to `m · 2 ^ e`, a tie going to the even significand.  When `m` is zero the
sign of the zero is the given one. -/
def ofScaled (m : Int) (e : Int) (zeroSign : UnpackedFloat.Sign) : Float :=
  .ofModel (.pack (UnpackedFloat.normalize Format.binary64 m e zeroSign))

/-- The double nearest to an integer. -/
def ofInt (n : Int) : Float :=
  ofScaled n 0 .positive

/-- The integer part of `m · 2 ^ e`. -/
def wholePart (m : Nat) (e : Int) : Nat :=
  if 0 ≤ e then m * Nat.pow 2 e.toNat else m / Nat.pow 2 (-e).toNat

/-- The integer part, cut toward zero; none for infinities and for what is not a number. -/
def truncate? (x : Float) : Option Int :=
  match x.toModel.unpack with
  | .zero _ => some 0
  | .finite s m e _ => some (s.apply (wholePart m e))
  | _ => none

/-- Whether a number is finite and has no fraction. -/
def isIntegral (x : Float) : Bool :=
  match x.toModel.unpack with
  | .zero _ => true
  | .finite _ m e _ => 0 ≤ e || m % Nat.pow 2 (-e).toNat == 0
  | _ => false

/-- The least signed 64 bit integer. -/
def minInt64 : Int := -9223372036854775808

/-- The greatest signed 64 bit integer. -/
def maxInt64 : Int := 9223372036854775807

/-- The integer part, held within the signed 64 bit integers; zero for what is not a number. -/
def toInt64 (x : Float) : Int :=
  match x.toModel.unpack with
  | .zero _ => 0
  | .notANumber => 0
  | .infinity .negative => minInt64
  | .infinity .positive => maxInt64
  | .finite s m e _ => max minInt64 (min maxInt64 (s.apply (wholePart m e)))

/-- A number whose integer part is taken as a list position: below zero counts as zero. -/
def toIndex (x : Float) : Nat :=
  match x.toModel.unpack with
  | .finite .positive m e _ => wholePart m e
  | _ => 0

/-- The remainder of a division cut toward zero.  It has the sign of the dividend and is exact. -/
def remainder (x y : Float) : Float :=
  match x.toModel.unpack, y.toModel.unpack with
  | .finite s m e _, .finite _ n f _ =>
    let low := min e f
    let rest := (m * Nat.pow 2 (e - low).toNat) % (n * Nat.pow 2 (f - low).toNat)
    ofScaled (s.apply rest) low s
  | .zero _, .finite .. => x
  | .zero _, .infinity _ => x
  | .finite .., .infinity _ => x
  | _, _ => .ofBits 0x7FF8000000000000

/-- The smaller of two numbers, where what is not a number gives way and the first of two equal
ones is kept. -/
def lesser (x y : Float) : Float :=
  if x.isNaN then y else if y < x then y else x

/-- The greater of two numbers, where what is not a number gives way and the first of two equal
ones is kept. -/
def greater (x y : Float) : Float :=
  if x.isNaN then y else if x < y then y else x

/-- The sixteen hexadecimal digits of the encoding. -/
def hexBits (x : Float) : String :=
  let digits := Nat.toDigits 16 x.toBits.toNat
  String.ofList (List.replicate (16 - digits.length) '0' ++ digits)

end EventNet.Double
