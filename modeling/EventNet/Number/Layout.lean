import EventNet.Number.Shortest

/-!
How a double is written down: always with the fewest digits that read back, and otherwise as a
layout says.  Three layouts are used.  Plain text never has an exponent and shows no fraction of a
whole number.  In JSON text very large and very small numbers have an exponent, and a whole number
keeps a fraction, which is what tells it from an integer.  The form for inspection is like that of
JSON with other bounds and no sign before a positive exponent.
-/

namespace EventNet

open Float.Model

/-- The decisions that fix the written form of a double. -/
structure Layout where
  /-- The least and the greatest decimal exponent of a first digit written without exponent. -/
  positional : Option (Int × Int)
  /-- Whether a whole number is written with a zero after the point. -/
  wholeHasPoint : Bool
  /-- Whether a positive exponent has a sign. -/
  exponentPlus : Bool
  tie : Shortest.Tie
  notANumber : String
  infinity : String
  negativeInfinity : String

namespace Layout

/-- The form used in messages. -/
def plain : Layout where
  positional := none
  wholeHasPoint := false
  exponentPlus := false
  tie := .away
  notANumber := "NaN"
  infinity := "inf"
  negativeInfinity := "-inf"

/-- The form used in JSON text, which has no spelling for what is not finite. -/
def json : Layout where
  positional := some (-5, 15)
  wholeHasPoint := true
  exponentPlus := true
  tie := .toEven
  notANumber := "null"
  infinity := "null"
  negativeInfinity := "null"

/-- The form used for inspection. -/
def inspection : Layout where
  positional := some (-4, 15)
  wholeHasPoint := true
  exponentPlus := false
  tie := .away
  notANumber := "NaN"
  infinity := "inf"
  negativeInfinity := "-inf"

/-- Digits with a point: `exponent` counts the zeros to append, or, below zero, the digits that
stand after the point. -/
def positionalText (l : Layout) (digits : List Char) (exponent : Int) : List Char :=
  let whole := if l.wholeHasPoint then ['.', '0'] else []
  if 0 ≤ exponent then digits ++ List.replicate exponent.toNat '0' ++ whole
  else
    let places := (-exponent).toNat
    if places < digits.length then
      digits.take (digits.length - places) ++ '.' :: digits.drop (digits.length - places)
    else ['0', '.'] ++ List.replicate (places - digits.length) '0' ++ digits

/-- One digit before the point and an exponent. -/
def scientificText (l : Layout) (digits : List Char) (exponent : Int) : List Char :=
  let fraction := digits.drop 1
  let point := if fraction.isEmpty then [] else '.' :: fraction
  let sign := if exponent < 0 then ['-'] else if l.exponentPlus then ['+'] else []
  digits.take 1 ++ point ++ 'e' :: sign ++ Nat.toDigits 10 exponent.natAbs

/-- The written form of a positive decimal. -/
def decimalText (l : Layout) (d : Shortest.Decimal) : List Char :=
  let digits := Nat.toDigits 10 d.digits
  let first := d.exponent + (digits.length - 1 : Nat)
  match l.positional with
  | none => l.positionalText digits d.exponent
  | some (least, greatest) =>
    if least ≤ first && first ≤ greatest then l.positionalText digits d.exponent
    else l.scientificText digits first

/-- The written form of a double. -/
def text (l : Layout) (x : Float) : String :=
  match x.toModel.unpack with
  | .notANumber => l.notANumber
  | .infinity .positive => l.infinity
  | .infinity .negative => l.negativeInfinity
  | .zero s => String.ofList (sign s ++ l.positionalText ['0'] 0)
  | .finite s m e _ => String.ofList (sign s ++ l.decimalText (Shortest.decimal l.tie m e))
where
  /-- A minus sign for what is negative. -/
  sign : UnpackedFloat.Sign → List Char
    | .positive => []
    | .negative => ['-']

end Layout

end EventNet
