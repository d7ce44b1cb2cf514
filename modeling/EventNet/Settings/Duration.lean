import EventNet.Json.Reader
import EventNet.Text.Letters

/-!
Durations as texts.

A duration is a number of nanoseconds.  Its text is a sum of items, each a number with a unit, such as
`1h 30m`; a number may have a decimal fraction, and blanks are skipped.  Seconds are counted in 64 bits
and so is every number on the way, so an item that needs more is refused.  A fraction has to come out
even: in nanoseconds for units up to the minute, in seconds for longer ones.

The text is read character by character.  What was read so far is a `Phase`, and `Phase.step` goes on
by one character.
-/

namespace EventNet.Duration

/-- Nanoseconds in a second. -/
def second : Nat := 1000000000

/-- A unit of durations. -/
structure Measure where
  names : List String
  /-- Nanoseconds in the unit. -/
  nanos : Nat
  /-- The step in which whole numbers of the unit are counted. -/
  wholeStep : Nat
  /-- The step in which fractions of the unit are counted; none where there are none. -/
  fractionStep : Option Nat

/-- A unit up to the minute of so many nanoseconds. -/
def short (names : List String) (nanos : Nat) : Measure :=
  ⟨names, nanos, if nanos < second then 1 else second, if nanos == 1 then none else some 1⟩

/-- A unit longer than a minute of so many seconds. -/
def long (names : List String) (seconds : Nat) : Measure :=
  ⟨names, seconds * second, second, some second⟩

/-- Seconds in a day. -/
def daySeconds : Nat := 86400

/-- Seconds in a month, which is 30.44 days. -/
def monthSeconds : Nat := 2630016

/-- Seconds in a year, which is 365.25 days. -/
def yearSeconds : Nat := 31557600

/-- All units. -/
def measures : List Measure :=
  [short ["nanos", "nsec", "ns"] 1,
   short ["usec", "us", "µs"] 1000,
   short ["millis", "msec", "ms"] 1000000,
   short ["seconds", "second", "secs", "sec", "s"] second,
   short ["minutes", "minute", "min", "mins", "m"] (60 * second),
   long ["hours", "hour", "hrs", "hr", "h"] 3600,
   long ["days", "day", "d"] daySeconds,
   long ["weeks", "week", "wks", "wk", "w"] (7 * daySeconds),
   long ["months", "month", "M"] monthSeconds,
   long ["years", "year", "yrs", "yr", "y"] yearSeconds]

/-- The unit of a name. -/
def measure? (name : String) : Option Measure :=
  measures.find? (·.names.contains name)

/-- A number that is kept in 64 bits. -/
def bounded? (n : Nat) : Option Nat :=
  if n ≤ Json.maxUInt64 then some n else none

/-- Add some steps to a duration. -/
def add? (total steps step : Nat) : Option Nat := do
  let steps ← bounded? steps
  let _ ← bounded? (if step == 1 then total % second + steps else 0)
  let total := total + steps * step
  let _ ← bounded? (total / second)
  some total

/-- Add an item: a whole number and a fraction, as numerator and denominator, of a unit. -/
def addItem? (total whole : Nat) (fraction : Option (Nat × Nat)) (name : String) : Option Nat := do
  let m ← measure? name
  let total ← add? total (whole * (m.nanos / m.wholeStep)) m.wholeStep
  match fraction with
  | none => some total
  | some (numerator, denominator) => do
    let step ← m.fractionStep
    let product ← bounded? (numerator * (m.nanos / step))
    if product % denominator == 0 then add? total (product / denominator) step else none

/-- What was read last. -/
inductive Phase where
  /-- A whole item, or nothing yet. -/
  | gap (total : Nat) (started : Bool)
  /-- Digits of a whole number. -/
  | whole (total number : Nat)
  /-- Digits of a fraction. -/
  | fraction (total number numerator denominator : Nat)
  /-- Letters of a unit. -/
  | name (total number : Nat) (fraction : Option (Nat × Nat)) (letters : List Char)
  deriving DecidableEq, Repr

/-- Whether a character can stand in the name of a unit. -/
def isNameChar (c : Char) : Bool :=
  c.isAlpha || c == 'µ'

/-- The value of a decimal digit. -/
def digit? (c : Char) : Option Nat :=
  if c.isDigit then some (c.toNat - '0'.toNat) else none

namespace Phase

/-- Go on by a digit. -/
def digit (d : Nat) : Phase → Option Phase
  | gap total _ => some (whole total d)
  | whole total n => (bounded? (n * 10 + d)).map (whole total)
  | fraction total n a b => do
    let a ← bounded? (a * 10 + d)
    let b ← bounded? (b * 10)
    some (fraction total n a b)
  | name total n f letters => do
    let total ← addItem? total n f (String.ofList letters)
    some (whole total d)

/-- Go on by a blank. -/
def blank : Phase → Option Phase
  | name total n f letters => do
    let total ← addItem? total n f (String.ofList letters)
    some (gap total true)
  | p => some p

/-- Go on by a letter. -/
def letter (c : Char) : Phase → Option Phase
  | gap .. => none
  | whole total n => some (name total n none [c])
  | fraction total n a b => if b == 1 then none else some (name total n (some (a, b)) [c])
  | name total n f letters => some (name total n f (letters ++ [c]))

/-- Go on by a decimal point. -/
def point : Phase → Option Phase
  | whole total n => some (fraction total n 0 1)
  | _ => none

/-- Go on by a character. -/
def step (p : Phase) (c : Char) : Option Phase :=
  match digit? c with
  | some d => p.digit d
  | none =>
    if Text.isBlank c then p.blank
    else if isNameChar c then p.letter c
    else if c == '.' then p.point
    else none

/-- The duration where the text ends. -/
def finish : Phase → Option Nat
  | gap total started => if started then some total else none
  | name total n f letters => addItem? total n f (String.ofList letters)
  | _ => none

end Phase

/-- Read a duration; a zero alone needs no unit. -/
def ofText? (text : String) : Option Nat :=
  if text == "0" then some 0
  else (text.toList.foldlM Phase.step (.gap 0 false)).bind Phase.finish

/-- A number with a unit, left out where it is zero. -/
def part (n : Nat) (unit : String) : List String :=
  if n == 0 then [] else [toString n ++ unit]

/-- A number with a unit that has a plural. -/
def countedPart (n : Nat) (unit : String) : List String :=
  part n (if 1 < n then unit ++ "s" else unit)

/-- Write a duration: as many years as there are, then months of the rest, and so on. -/
def text (nanos : Nat) : String :=
  let seconds := nanos / second
  let inYear := seconds % yearSeconds
  let inMonth := inYear % monthSeconds
  let inDay := inMonth % daySeconds
  let parts :=
    countedPart (seconds / yearSeconds) "year" ++ countedPart (inYear / monthSeconds) "month" ++
      countedPart (inMonth / daySeconds) "day" ++ part (inDay / 3600) "h" ++
      part (inDay % 3600 / 60) "m" ++ part (inDay % 60) "s" ++
      part (nanos % second / 1000000) "ms" ++ part (nanos / 1000 % 1000) "us" ++
      part (nanos % 1000) "ns"
  if parts.isEmpty then "0s" else " ".intercalate parts

end EventNet.Duration
