import EventNet.Number.Layout
import EventNet.Settings.Format
import EventNet.Text.Case

/-!
Reading settings from sources that know few types.

A source may give a number or a truth value as a text, and a text as a number.  Each scalar is turned
into the type of its setting where that is possible without guessing: words such as `yes` and `off` are
truth values, truth values are the numbers one and zero, and a double is rounded to a whole number.
Whole numbers beyond 63 bits are read as doubles.
-/

namespace EventNet.Lenient

/-- Words for yes. -/
def affirmations : List String := ["true", "on", "yes"]

/-- Words for no. -/
def negations : List String := ["false", "off", "no"]

/-- A scalar, with a whole number beyond 63 bits as a double. -/
def scalar (j : Json) : Json :=
  match j with
  | .int n => if n ≤ Double.maxInt64 then .int n else .double (Double.ofInt n)
  | j => j

/-- A truth value of a text. -/
def boolOfText? (s : String) : Option Bool :=
  let s := Text.lowerText s
  if s == "1" || affirmations.contains s then some true
  else if s == "0" || negations.contains s then some false
  else none

/-- Read a truth value. -/
def bool? (j : Json) : Option Bool :=
  match scalar j with
  | .bool b => some b
  | .int n => some (n != 0)
  | .double x => some (x != 0)
  | .str s => boolOfText? s
  | _ => none

/-- A number written in digits, perhaps after a plus sign. -/
def digits? (s : String) : Option Nat :=
  let ds := match s.toList with
    | '+' :: rest => rest
    | cs => cs
  if ds.isEmpty then none
  else (ds.mapM Duration.digit?).map fun ds => ds.foldl (fun n d => n * 10 + d) 0

/-- A number of a text. -/
def natOfText? (s : String) : Option Nat :=
  let word := Text.lowerText s
  if affirmations.contains word then some 1
  else if negations.contains word then some 0
  else digits? s

/-- The whole number nearest to a double, a half away from zero, within 64 unsigned bits. -/
def nearest (x : Float) : Nat :=
  if x < 18446744073709551616 then Double.toIndex x.round
  else if x.isNaN then 0 else Json.maxUInt64

/-- Read an unsigned number up to a bound. -/
def natUpTo? (greatest : Nat) (j : Json) : Option Nat :=
  let n? := match scalar j with
    | .bool b => some b.toNat
    | .int n => if 0 ≤ n then some n.toNat else none
    | .double x => some (nearest x)
    | .str s => natOfText? s
    | _ => none
  n?.filter (· ≤ greatest)

/-- Read a text. -/
def text? (j : Json) : Option String :=
  match scalar j with
  | .str s => some s
  | .bool b => some (Value.boolText b)
  | .int n => some (toString n)
  | .double x => some (Layout.plain.text x)
  | _ => none

/-- Read one of some words, written in any case. -/
def word? (words : List String) (j : Json) : Option String :=
  let given := match j with
    | .str s => some s
    | .obj [(k, _)] => some k
    | _ => none
  given.bind fun s => words.find? fun w => Text.lowerText w == Text.lowerText s

/-- Read a record; surplus items of an array are skipped. -/
def record? (names : List String) (j : Json) : Option Json.Record :=
  match j with
  | .arr items => Json.record? names (.arr (items.take names.length))
  | j => Json.record? names j

/-- The lenient way to read settings. -/
def reading : Reading where
  record := record?
  bool := bool?
  uint32 := natUpTo? 4294967295
  uint64 := natUpTo? Json.maxUInt64
  text := text?
  word := word?

end EventNet.Lenient
