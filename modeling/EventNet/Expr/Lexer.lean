import EventNet.Expr.Error
import EventNet.Text.Letters

/-!
From text to tokens.

A lexeme is a number `digits[.digits]` or `.digits`, a string between single or double quotes, an
identifier or keyword, or an operator of one or two characters; lexemes are separated by blanks.  At
every place the longest lexeme is taken.  `lexeme` looks at the first character and says which token
starts there and how many further characters belong to it; `tokensFrom` repeats that to the end of
the text, which gets a token of its own.
-/

namespace EventNet

namespace Lexer

/-- The length of a text in bytes. -/
def byteLength (cs : List Char) : Nat :=
  cs.foldr (·.utf8Size + ·) 0

/-- How many characters belong to a number after its first digit. -/
def numberTail (cs : List Char) : Nat :=
  let whole := (cs.takeWhile Char.isDigit).length
  match cs.drop whole with
  | '.' :: c :: rest =>
    if c.isDigit then whole + 1 + ((c :: rest).takeWhile Char.isDigit).length else whole
  | _ => whole

/-- The number written by digits with at most one point: the double nearest to it. -/
def numberValue (lexeme : List Char) : Float :=
  let digits := lexeme.filter (· != '.')
  let places := ((lexeme.dropWhile (· != '.')).drop 1).length
  Float.ofScientific (digits.foldl (fun n c => n * 10 + (c.toNat - '0'.toNat)) 0) true places

/-- What a character after a backslash stands for. -/
def escaped? : Char → Option Char
  | 'n' => some '\n'
  | 't' => some '\t'
  | 'r' => some '\r'
  | '\\' => some '\\'
  | '"' => some '"'
  | '\'' => some '\''
  | _ => none

/-- The content of a string after its opening quote at `start`, and how many characters it takes up
with its closing quote. -/
def stringTail (quote : Char) (start : Nat) :
    (position : Nat) → List Char → Except ExprError (List Char × Nat)
  | _, [] => .error (.parse .unterminatedString start)
  | position, c :: rest =>
    if c == quote then .ok ([], 1)
    else if c == '\\' then
      match rest with
      | [] => .error (.parse .unterminatedString start)
      | e :: rest =>
        match escaped? e with
        | none => .error (.parse (.unknownEscape e) (position + 1))
        | some x =>
          (stringTail quote start (position + 1 + e.utf8Size) rest).map
            fun (content, n) => (x :: content, n + 2)
    else
      (stringTail quote start (position + c.utf8Size) rest).map
        fun (content, n) => (c :: content, n + 1)

/-- Whether a character can start an identifier. -/
def startsName (c : Char) : Bool :=
  Text.isAlphabetic c || c == '_'

/-- Whether a character can continue an identifier. -/
def continuesName (c : Char) : Bool :=
  Text.isAlphanumeric c || c == '_'

/-- The keyword of a name, or else its identifier. -/
def nameToken (name : String) : Token :=
  match name with
  | "true" => .true
  | "false" => .false
  | "nil" => .nil
  | "null" => .nil
  | name => .ident name

/-- The operator that starts with a character, and whether it takes up the next one too. -/
def operator? (c : Char) (next : Option Char) : Option (Token × Nat) :=
  match c, next with
  | '&', some '&' => some (.and, 1)
  | '|', some '|' => some (.or, 1)
  | '=', some '=' => some (.eq, 1)
  | '!', some '=' => some (.ne, 1)
  | '<', some '=' => some (.le, 1)
  | '>', some '=' => some (.ge, 1)
  | '!', _ => some (.not, 0)
  | '<', _ => some (.lt, 0)
  | '>', _ => some (.gt, 0)
  | '+', _ => some (.plus, 0)
  | '-', _ => some (.minus, 0)
  | '*', _ => some (.star, 0)
  | '/', _ => some (.slash, 0)
  | '%', _ => some (.percent, 0)
  | '(', _ => some (.leftParen, 0)
  | ')', _ => some (.rightParen, 0)
  | '[', _ => some (.leftBracket, 0)
  | ']', _ => some (.rightBracket, 0)
  | '.', _ => some (.dot, 0)
  | ',', _ => some (.comma, 0)
  | _, _ => none

/-- Whether a number starts here: at a digit, or at a point before a digit. -/
def startsNumber (c : Char) (rest : List Char) : Bool :=
  c.isDigit || (c == '.' && (rest.head?.map Char.isDigit).getD false)

/-- The token that starts with `c` and the number of characters of `rest` that belong to it. -/
def lexeme (position : Nat) (c : Char) (rest : List Char) : Except ExprError (Token × Nat) :=
  if startsNumber c rest then
    let n := if c == '.' then (rest.takeWhile Char.isDigit).length else numberTail rest
    .ok (.number (numberValue (c :: rest.take n)), n)
  else if c == '"' || c == '\'' then
    (stringTail c position (position + 1) rest).map
      fun (content, n) => (.str (String.ofList content), n)
  else if startsName c then
    let tail := rest.takeWhile continuesName
    .ok (nameToken (String.ofList (c :: tail)), tail.length)
  else
    match operator? c rest.head? with
    | some (token, n) => .ok (token, n)
    | none => .error (.parse (.unexpectedCharacter c) position)

/-- The tokens of a text that starts at a byte offset, the end of the text last. -/
def tokensFrom (position : Nat) : List Char → Except ExprError (List Spanned)
  | [] => .ok [⟨.eof, position⟩]
  | c :: rest =>
    if Text.isBlank c then tokensFrom (position + c.utf8Size) rest
    else
      match lexeme position c rest with
      | .error e => .error e
      | .ok (token, n) =>
        (tokensFrom (position + byteLength (c :: rest.take n)) (rest.drop n)).map
          (⟨token, position⟩ :: ·)
termination_by cs => cs.length
decreasing_by
  · exact Nat.lt_succ_self _
  · exact Nat.lt_succ_of_le (List.length_drop ▸ Nat.sub_le _ _)

end Lexer

/-- Split a text into tokens. -/
def tokenize (text : String) : Except ExprError (List Spanned) :=
  Lexer.tokensFrom 0 text.toList

end EventNet
