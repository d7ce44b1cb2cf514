import EventNet.Text.Letters
import EventNet.Time.Calendar

/-!
Instants in universal time and their written form.

An instant is a number of seconds since 1970 and the nanoseconds after it; a leap second is the
nanoseconds from 10^9 on of the second before.  The written form is `2024-01-31T12:30:00.500Z` with
no, three, six or nine digits of the second's fraction, the fewest that are exact.  Reading also takes
an offset from universal time, a blank in place of the `T`, and blanks between the parts.
-/

namespace EventNet

/-- A point in time. -/
structure Instant where
  seconds : Int
  nanos : Nat
  deriving DecidableEq, Repr

namespace Instant

/-- Earlier or equal. -/
def le (a b : Instant) : Bool :=
  a.seconds < b.seconds || (a.seconds == b.seconds && a.nanos ≤ b.nanos)

/-- Strictly earlier. -/
def lt (a b : Instant) : Bool :=
  !b.le a

/-- Cut down to whole microseconds. -/
def toMicrosecond (a : Instant) : Instant :=
  { a with nanos := a.nanos - a.nanos % 1000 }

/-- The number of whole microseconds since 1970. -/
def micros (a : Instant) : Int :=
  a.seconds * 1000000 + (a.nanos / 1000 : Nat)

/-- The first and the last second of the years that instants may lie in. -/
def firstSecond : Int := (Date.mk (-262143) 1 1).toDays * 86400

/-- The first second after the years that instants may lie in. -/
def endSecond : Int := (Date.mk 262143 1 1).toDays * 86400

/-- Whether an instant lies in the years -262143 to 262142. -/
def inRange (a : Instant) : Bool :=
  firstSecond ≤ a.seconds && a.seconds < endSecond

/-- The instant of a number of microseconds since 1970. -/
def ofMicros? (n : Int) : Option Instant :=
  let a : Instant := ⟨n / 1000000, (n % 1000000).toNat * 1000⟩
  if a.inRange then some a else none

/-- At least `width` digits. -/
def padded (width n : Nat) : String :=
  let digits := Nat.toDigits 10 n
  String.ofList (List.replicate (width - digits.length) '0' ++ digits)

/-- A year: four digits, with a sign outside the years 0 to 9999. -/
def yearText (y : Int) : String :=
  if 0 ≤ y && y ≤ 9999 then padded 4 y.toNat
  else (if y < 0 then "-" else "+") ++ padded 4 y.natAbs

/-- The fraction of a second with its point. -/
def fractionText (nanos : Nat) : String :=
  if nanos == 0 then ""
  else if nanos % 1000000 == 0 then "." ++ padded 3 (nanos / 1000000)
  else if nanos % 1000 == 0 then "." ++ padded 6 (nanos / 1000)
  else "." ++ padded 9 nanos

/-- The written form. -/
def text (a : Instant) : String :=
  let date := Date.ofDays (a.seconds / 86400)
  let second := (a.seconds % 86400).toNat
  let leap := 1000000000 ≤ a.nanos
  yearText date.year ++ "-" ++ padded 2 date.month ++ "-" ++ padded 2 date.day ++ "T" ++
    padded 2 (second / 3600) ++ ":" ++ padded 2 (second / 60 % 60) ++ ":" ++
    padded 2 (second % 60 + if leap then 1 else 0) ++
    fractionText (if leap then a.nanos - 1000000000 else a.nanos) ++ "Z"

/-- Drop leading blanks. -/
def skipBlanks (cs : List Char) : List Char :=
  cs.dropWhile Text.isBlank

/-- One or more digits, at most `width` of them. -/
def digits? (width : Nat) (cs : List Char) : Option (List Char × List Char) :=
  let digits := (cs.take width).takeWhile Char.isDigit
  if digits.isEmpty then none else some (digits, cs.drop digits.length)

/-- The number written by digits. -/
def digitsValue (digits : List Char) : Nat :=
  digits.foldl (fun n c => n * 10 + (c.toNat - '0'.toNat)) 0

/-- A number within bounds after blanks. -/
def number? (width low high : Nat) (cs : List Char) : Option (Nat × List Char) := do
  let (digits, rest) ← digits? width (skipBlanks cs)
  let n := digitsValue digits
  if low ≤ n && n ≤ high then some (n, rest) else none

/-- A year: up to four digits, or any number of them after a sign. -/
def year? (cs : List Char) : Option (Int × List Char) :=
  match skipBlanks cs with
  | '-' :: rest => (digits? rest.length rest).map fun (d, rest) => (-(digitsValue d : Int), rest)
  | '+' :: rest => (digits? rest.length rest).map fun (d, rest) => (digitsValue d, rest)
  | cs => (digits? 4 cs).map fun (d, rest) => (digitsValue d, rest)

/-- A separator after blanks. -/
def separator? (c : Char) (cs : List Char) : Option (List Char) :=
  match skipBlanks cs with
  | d :: rest => if d == c then some rest else none
  | [] => none

/-- The fraction of a second in nanoseconds; further digits are dropped. -/
def fraction? : List Char → Option (Nat × List Char)
  | '.' :: rest => do
    let (digits, rest) ← digits? 9 rest
    some (digitsValue digits * Nat.pow 10 (9 - digits.length), rest.dropWhile Char.isDigit)
  | cs => some (0, cs)

/-- Hours and minutes of an offset, in seconds. -/
def offsetSize? : List Char → Option (Nat × List Char)
  | a :: b :: rest =>
    if a.isDigit && b.isDigit then
      match rest.dropWhile fun c => c == ':' || Text.isBlank c with
      | c :: d :: rest =>
        if '0' ≤ c && c ≤ '5' && d.isDigit then
          some (digitsValue [a, b] * 3600 + digitsValue [c, d] * 60, rest)
        else none
      | _ => none
    else none
  | _ => none

/-- An offset from universal time in seconds: `Z`, `UTC` or a signed number of hours and minutes. -/
def offset? : List Char → Option (Int × List Char)
  | 'Z' :: rest => some (0, rest)
  | 'z' :: rest => some (0, rest)
  | '+' :: rest => (offsetSize? rest).map fun (n, rest) => (n, rest)
  | '-' :: rest => (offsetSize? rest).map fun (n, rest) => (-(n : Int), rest)
  | '−' :: rest => (offsetSize? rest).map fun (n, rest) => (-(n : Int), rest)
  | u :: t :: c :: rest =>
    if [u, t, c].map Char.toUpper == ['U', 'T', 'C'] then some (0, rest) else none
  | _ => none

/-- Read the written form of an instant. -/
def parse? (text : String) : Option Instant := do
  let (year, cs) ← year? text.toList
  let cs ← separator? '-' cs
  let (month, cs) ← number? 2 1 12 cs
  let cs ← separator? '-' cs
  let (day, cs) ← number? 2 1 31 cs
  let cs ← match cs with
    | c :: rest => if c == 'T' || c == 't' || c == ' ' then some rest else none
    | [] => none
  let (hour, cs) ← number? 2 0 23 cs
  let cs ← separator? ':' cs
  let (minute, cs) ← number? 2 0 59 cs
  let cs ← separator? ':' cs
  let (second, cs) ← number? 2 0 60 cs
  let (nanos, cs) ← fraction? cs
  let (offset, cs) ← offset? (skipBlanks cs)
  if !(skipBlanks cs).isEmpty || 86400 ≤ offset.natAbs then none
  let date : Date := ⟨year, month, day⟩
  if !date.isValid then none
  let leap := second == 60
  let a : Instant :=
    ⟨date.toDays * 86400 + hour * 3600 + minute * 60 + (if leap then 59 else second) - offset,
     if leap then nanos + 1000000000 else nanos⟩
  if a.inRange then some a else none

end Instant

end EventNet
