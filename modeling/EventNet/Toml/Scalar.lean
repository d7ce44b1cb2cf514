import EventNet.Json.Reader

/-!
Texts and numbers of TOML.

A reader of this module takes the characters from the first one of the thing it reads and answers what
it read with the characters that follow.
-/

namespace EventNet.Toml

/-- Whether a character is a blank within a line. -/
def isBlank (c : Char) : Bool :=
  c == ' ' || c == '\t'

/-- Whether a character cannot stand in a text. -/
def isControl (c : Char) : Bool :=
  (c.toNat < 0x20 && c != '\t') || c.toNat == 0x7F

/-- Take the end of a line. -/
def newline? : List Char → Option (List Char)
  | '\n' :: rest => some rest
  | '\r' :: '\n' :: rest => some rest
  | _ => none

/-! ### Texts -/

/-- The character of a number of hexadecimal digits. -/
def codePoint? (digits : List Char) : Option Char := do
  let ds ← digits.mapM Json.hexDigit?
  let n := ds.foldl (fun n d => n * 16 + d) 0
  if n.isValidChar then some (Char.ofNat n) else none

/-- The character of an escape, after its backslash. -/
def escape? : List Char → Option (Char × List Char)
  | 'b' :: rest => some ('\x08', rest)
  | 't' :: rest => some ('\t', rest)
  | 'n' :: rest => some ('\n', rest)
  | 'f' :: rest => some ('\x0c', rest)
  | 'r' :: rest => some ('\r', rest)
  | '"' :: rest => some ('"', rest)
  | '\\' :: rest => some ('\\', rest)
  | 'u' :: rest =>
    if rest.length < 4 then none else (codePoint? (rest.take 4)).map fun c => (c, rest.drop 4)
  | 'U' :: rest =>
    if rest.length < 8 then none else (codePoint? (rest.take 8)).map fun c => (c, rest.drop 8)
  | _ => none

/-- The characters after blanks and line ends. -/
def skipLines : List Char → List Char
  | '\r' :: '\n' :: rest => skipLines rest
  | c :: rest => if isBlank c || c == '\n' then skipLines rest else c :: rest
  | [] => []

/-- The characters after a backslash that ends a line; none where it does not. -/
def foldedLine? (cs : List Char) : Option (List Char) :=
  (newline? (cs.dropWhile isBlank)).map skipLines

/-- A text on one line, after its quote; `fuel` bounds the characters read. -/
def lineText? (quote : Char) : (fuel : Nat) → (acc : List Char) → List Char →
    Option (String × List Char)
  | 0, _, _ => none
  | _ + 1, _, [] => none
  | fuel + 1, acc, c :: rest =>
    if c == quote then some (String.ofList acc.reverse, rest)
    else if c == '\\' && quote == '"' then do
      let (c, rest) ← escape? rest
      lineText? quote fuel (c :: acc) rest
    else if isControl c then none
    else lineText? quote fuel (c :: acc) rest

/-- The number of quotes that characters begin with. -/
def quotes (quote : Char) (cs : List Char) : Nat :=
  (cs.takeWhile (· == quote)).length

/-- A text on several lines, after its three quotes.  Up to two quotes belong to the text, also in front
of the three that end it. -/
def linesText? (quote : Char) : (fuel : Nat) → (acc : List Char) → List Char →
    Option (String × List Char)
  | 0, _, _ => none
  | _ + 1, _, [] => none
  | fuel + 1, acc, c :: rest =>
    if c == quote then
      let n := quotes quote (c :: rest)
      if n < 3 then linesText? quote fuel (c :: acc) rest
      else if n ≤ 5 then
        some (String.ofList (List.replicate (n - 3) quote ++ acc).reverse, (c :: rest).drop n)
      else none
    else if c == '\\' && quote == '"' then
      match foldedLine? rest with
      | some rest => linesText? quote fuel acc rest
      | none => do
        let (c, rest) ← escape? rest
        linesText? quote fuel (c :: acc) rest
    else
      match newline? (c :: rest) with
      | some rest => linesText? quote fuel ('\n' :: acc) rest
      | none => if isControl c then none else linesText? quote fuel (c :: acc) rest

/-- A text of either kind, from its first quote on. -/
def text? (quote : Char) (cs : List Char) : Option (String × List Char) :=
  if quotes quote cs < 3 then lineText? quote cs.length [] (cs.drop 1)
  else
    let cs := cs.drop 3
    linesText? quote (cs.length + 1) [] ((newline? cs).getD cs)

/-! ### Numbers -/

/-- Digits without the underscores between them. -/
def withoutUnderscores? (isDigit : Char → Bool) : List Char → Option (List Char)
  | [c] => if isDigit c then some [c] else none
  | c :: '_' :: rest =>
    if isDigit c then (withoutUnderscores? isDigit rest).map (c :: ·) else none
  | c :: rest => if isDigit c then (withoutUnderscores? isDigit rest).map (c :: ·) else none
  | [] => none

/-- The number of digits to a base. -/
def natOfDigits (base : Nat) (digits : List Char) : Nat :=
  digits.foldl (fun n c => n * base + (Json.hexDigit? c).getD 0) 0

/-- An integer of 64 bits. -/
def int64? (n : Int) : Option Json :=
  if Double.minInt64 ≤ n && n ≤ Double.maxInt64 then some (.int n) else none

/-- Digits without leading zeros. -/
def plainDigits? (cs : List Char) : Option (List Char) := do
  let ds ← withoutUnderscores? Char.isDigit cs
  if ds.head? == some '0' && 1 < ds.length then none else some ds

/-- An integer to another base. -/
def basedInt? (base : Nat) (isDigit : Char → Bool) (cs : List Char) : Option Json := do
  let ds ← withoutUnderscores? isDigit cs
  int64? (natOfDigits base ds)

/-- The exponent of a double, after its letter. -/
def exponent? (cs : List Char) : Option Int := do
  let (negative, cs) := match cs with
    | '-' :: rest => (true, rest)
    | '+' :: rest => (false, rest)
    | _ => (false, cs)
  let ds ← withoutUnderscores? Char.isDigit cs
  let n : Int := natOfDigits 10 ds
  some (if negative then -n else n)

/-- How far exponents of doubles reach in either direction. -/
def exponentRange : Nat := 400

/-- The double of digits before and after the point and an exponent; none where it is too large. -/
def double? (whole fraction : List Char) (exponent : Int) : Option Float :=
  let digits := whole ++ fraction
  let significand := natOfDigits 10 digits
  let e := exponent - fraction.length
  if significand == 0 || e < -(digits.length + exponentRange : Nat) then some 0
  else if exponentRange < e then none
  else
    let x := Float.ofScientific significand (e < 0) e.natAbs
    if x.isFinite then some x else none

/-- Whether a character begins an exponent. -/
def isExponentMark (c : Char) : Bool :=
  c == 'e' || c == 'E'

/-- A number without its sign. -/
def unsigned? (negative : Bool) (cs : List Char) : Option Json := do
  let (mantissa, exponent) := (cs.takeWhile fun c => !isExponentMark c,
    cs.dropWhile fun c => !isExponentMark c)
  let (whole, fraction) := (mantissa.takeWhile (· != '.'), mantissa.dropWhile (· != '.'))
  let whole ← plainDigits? whole
  if fraction.isEmpty && exponent.isEmpty then
    int64? (if negative then -(natOfDigits 10 whole : Int) else natOfDigits 10 whole)
  else do
    let fraction ← match fraction with
      | [] => some []
      | _ :: ds => withoutUnderscores? Char.isDigit ds
    let exponent ← match exponent with
      | [] => some 0
      | _ :: e => exponent? e
    let x ← double? whole fraction exponent
    some (.double (if negative then -x else x))

/-- The number or word of some characters. -/
def word? (cs : List Char) : Option Json :=
  match String.ofList cs with
  | "true" => some (.bool true)
  | "false" => some (.bool false)
  | "inf" | "+inf" => some (.double (1 / 0))
  | "-inf" => some (.double (-1 / 0))
  | "nan" | "+nan" | "-nan" => some (.double (0 / 0))
  | _ =>
    match cs with
    | '0' :: 'x' :: ds => basedInt? 16 (fun c => (Json.hexDigit? c).isSome) ds
    | '0' :: 'o' :: ds => basedInt? 8 (fun c => c.isDigit && c < '8') ds
    | '0' :: 'b' :: ds => basedInt? 2 (fun c => c == '0' || c == '1') ds
    | '+' :: ds => unsigned? false ds
    | '-' :: ds => unsigned? true ds
    | ds => unsigned? false ds

/-- Whether a character can stand in a number or word. -/
def isWordChar (c : Char) : Bool :=
  c.isAlphanum || c == '_' || c == '+' || c == '-' || c == '.'

end EventNet.Toml
