import EventNet.Json.Basic

/-!
Reading JSON text.

`read?` accepts the grammar of JSON and nothing else: no comments, no trailing commas, no bare
words, no control characters in strings, no lone surrogates.  It sets no bound on nesting and lets a
number too large for a double become infinite, because a reader that skips an unknown field does not
look inside it.  `ofText?` is the reading of a whole document: nesting is at most 127 and every
number is finite.

A number with a fraction or an exponent is read as a significand, of which the digits that fit 64
bits count, times a power of ten; the significand is rounded to a double first and the product once
more.
-/

namespace EventNet.Json

/-- Space, tab, line feed and carriage return. -/
def isSpace (c : Char) : Bool :=
  c == ' ' || c == '\n' || c == '\t' || c == '\r'

/-- Drop leading white space. -/
def skipSpace (cs : List Char) : List Char :=
  cs.dropWhile isSpace

/-- The value of a hexadecimal digit. -/
def hexDigit? (c : Char) : Option Nat :=
  if c.isDigit then some (c.toNat - '0'.toNat)
  else if 'a' ≤ c && c ≤ 'f' then some (c.toNat - 'a'.toNat + 10)
  else if 'A' ≤ c && c ≤ 'F' then some (c.toNat - 'A'.toNat + 10)
  else none

/-- Four hexadecimal digits. -/
def hex4? : List Char → Option (Nat × List Char)
  | a :: b :: c :: d :: rest => do
    let a ← hexDigit? a
    let b ← hexDigit? b
    let c ← hexDigit? c
    let d ← hexDigit? d
    some (((a * 16 + b) * 16 + c) * 16 + d, rest)
  | _ => none

/-- What an escape stands for, given the text after the backslash.  A pair of surrogates makes one
character; a surrogate alone is refused. -/
def escape? : List Char → Option (Char × List Char)
  | '"' :: rest => some ('"', rest)
  | '\\' :: rest => some ('\\', rest)
  | '/' :: rest => some ('/', rest)
  | 'b' :: rest => some ('\x08', rest)
  | 'f' :: rest => some ('\x0c', rest)
  | 'n' :: rest => some ('\n', rest)
  | 'r' :: rest => some ('\r', rest)
  | 't' :: rest => some ('\t', rest)
  | 'u' :: rest => do
    let (n, rest) ← hex4? rest
    if 0xDC00 ≤ n && n ≤ 0xDFFF then none
    else if 0xD800 ≤ n && n ≤ 0xDBFF then
      match rest with
      | '\\' :: 'u' :: rest => do
        let (low, rest) ← hex4? rest
        if 0xDC00 ≤ low && low ≤ 0xDFFF then
          some (Char.ofNat (0x10000 + (n - 0xD800) * 0x400 + (low - 0xDC00)), rest)
        else none
      | _ => none
    else some (Char.ofNat n, rest)
  | _ => none

/-- The rest of a string after its opening quote; `fuel` bounds the characters read. -/
def stringBody? : (fuel : Nat) → (acc : List Char) → List Char → Option (String × List Char)
  | 0, _, _ => none
  | _ + 1, acc, '"' :: rest => some (String.ofList acc.reverse, rest)
  | fuel + 1, acc, '\\' :: rest => do
    let (c, rest) ← escape? rest
    stringBody? fuel (c :: acc) rest
  | fuel + 1, acc, c :: rest => if c.toNat < 0x20 then none else stringBody? fuel (c :: acc) rest
  | _ + 1, _, [] => none

/-- The greatest unsigned 64 bit integer. -/
def maxUInt64 : Nat := 18446744073709551615

/-- Take digits into a significand as long as it fits 64 bits; the rest is only counted. -/
def takeDigits (significand : Nat) : List Char → Nat × Nat
  | [] => (significand, 0)
  | c :: rest =>
    let next := significand * 10 + (c.toNat - '0'.toNat)
    if next ≤ maxUInt64 then takeDigits next rest else (significand, (c :: rest).length)

/-- A significand times a power of ten.  Powers up to the 308th are applied in one rounding, larger
negative ones in steps of 308. -/
def scaled : (fuel : Nat) → Float → Int → Float
  | 0, x, _ => x
  | fuel + 1, x, e =>
    if e.natAbs ≤ 308 then
      let power := Float.ofScientific 1 false e.natAbs
      if 0 ≤ e then x * power else x / power
    else if x == 0 then x
    else if 0 ≤ e then 1 / 0
    else scaled fuel (x / 1e308) (e + 308)

/-- The double of a written number. -/
def decimalDouble (negative : Bool) (whole fraction : List Char) (exponent : Int) : Float :=
  let (significand, skipped) := takeDigits 0 whole
  let (significand, left) := takeDigits significand fraction
  let e := exponent + skipped - (fraction.length - left : Nat)
  let x :=
    if 2147483647 < exponent.natAbs then
      if significand == 0 || exponent < 0 then 0 else 1 / 0
    else scaled 4 (Double.ofInt significand) (max e (-2000))
  if negative then -x else x

/-- A number, from its first character on. -/
def number (cs : List Char) : Option (Json × List Char) := do
  let (negative, cs) := match cs with
    | '-' :: rest => (true, rest)
    | _ => (false, cs)
  let whole := cs.takeWhile Char.isDigit
  let cs := cs.dropWhile Char.isDigit
  if whole.isEmpty || (whole.head? == some '0' && 1 < whole.length) then none
  let (fraction, cs, hasPoint) := match cs with
    | '.' :: rest => (rest.takeWhile Char.isDigit, rest.dropWhile Char.isDigit, true)
    | _ => ([], cs, false)
  if hasPoint && fraction.isEmpty then none
  let (exponent?, cs) ← match cs with
    | c :: rest =>
      if c == 'e' || c == 'E' then do
        let (minus, rest) := match rest with
          | '-' :: rest => (true, rest)
          | '+' :: rest => (false, rest)
          | _ => (false, rest)
        let digits := rest.takeWhile Char.isDigit
        if digits.isEmpty then none
        let n : Int := digits.foldl (fun n c => n * 10 + (c.toNat - '0'.toNat)) 0
        some (some (if minus then -n else n), rest.dropWhile Char.isDigit)
      else some (none, cs)
    | [] => some (none, cs)
  if hasPoint || exponent?.isSome then
    some (.double (decimalDouble negative whole fraction (exponent?.getD 0)), cs)
  else
    let n : Nat := whole.foldl (fun n c => n * 10 + (c.toNat - '0'.toNat)) 0
    if negative && (n == 0 || 9223372036854775808 < n) then
      some (.double (decimalDouble true whole [] 0), cs)
    else if maxUInt64 < n then some (.double (decimalDouble false whole [] 0), cs)
    else some (.int (if negative then -n else n), cs)

/-- The text after a given word. -/
def afterWord? : (word : List Char) → List Char → Option (List Char)
  | [], cs => some cs
  | w :: ws, c :: cs => if w == c then afterWord? ws cs else none
  | _ :: _, [] => none

mutual

/-- One document and the text after it; `fuel` bounds the steps. -/
def value? : (fuel : Nat) → List Char → Option (Json × List Char)
  | 0, _ => none
  | fuel + 1, cs =>
    match skipSpace cs with
    | 'n' :: rest => (afterWord? ['u', 'l', 'l'] rest).map (.null, ·)
    | 't' :: rest => (afterWord? ['r', 'u', 'e'] rest).map (.bool true, ·)
    | 'f' :: rest => (afterWord? ['a', 'l', 's', 'e'] rest).map (.bool false, ·)
    | '"' :: rest => (stringBody? (rest.length + 1) [] rest).map fun (s, rest) => (.str s, rest)
    | '[' :: rest =>
      match skipSpace rest with
      | ']' :: rest => some (.arr [], rest)
      | rest => (items? fuel [] rest).map fun (items, rest) => (.arr items, rest)
    | '\x7b' :: rest =>
      match skipSpace rest with
      | '\x7d' :: rest => some (.obj [], rest)
      | rest => (fields? fuel [] rest).map fun (fields, rest) => (.obj fields, rest)
    | cs => number cs

/-- The items of an array up to its closing bracket. -/
def items? : (fuel : Nat) → (acc : List Json) → List Char → Option (List Json × List Char)
  | 0, _, _ => none
  | fuel + 1, acc, cs => do
    let (item, rest) ← value? fuel cs
    match skipSpace rest with
    | ',' :: rest => items? fuel (item :: acc) rest
    | ']' :: rest => some ((item :: acc).reverse, rest)
    | _ => none

/-- The fields of an object up to its closing brace. -/
def fields? : (fuel : Nat) → (acc : List (String × Json)) → List Char →
    Option (List (String × Json) × List Char)
  | 0, _, _ => none
  | fuel + 1, acc, cs =>
    match skipSpace cs with
    | '"' :: rest => do
      let (name, rest) ← stringBody? (rest.length + 1) [] rest
      match skipSpace rest with
      | ':' :: rest => do
        let (item, rest) ← value? fuel rest
        match skipSpace rest with
        | ',' :: rest => fields? fuel ((name, item) :: acc) rest
        | '\x7d' :: rest => some (((name, item) :: acc).reverse, rest)
        | _ => none
      | _ => none
    | _ => none

end

/-- Read one document that fills the text. -/
def read? (text : String) : Option Json :=
  let cs := text.toList
  match value? (2 * cs.length + 2) cs with
  | some (j, rest) => if (skipSpace rest).isEmpty then some j else none
  | none => none

/-- The deepest nesting of a readable document. -/
def maxNesting : Nat := 127

/-- Read one document that fills the text, is nested at most `maxNesting` deep and has finite numbers
only. -/
def ofText? (text : String) : Option Json :=
  (read? text).filter (·.fits maxNesting)

end EventNet.Json
