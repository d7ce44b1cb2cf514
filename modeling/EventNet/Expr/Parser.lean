import EventNet.Expr.Lexer

/-!
From tokens to expressions.

Binary operators bind in five tiers, `||` loosest, then `&&`, comparisons, sums and products; all
group to the left.  Operators before an operand bind tighter, and indexing, field access and calls
tightest of all.

Depth is limited.  One level is opened by every expression in parentheses, brackets or an argument
list, by every operator before an operand, and by every link of a chain: the second and each further
operand of a tier, and each index, field or call.  A link's level stays open to the end of its
chain, because the operand before it is nested below it in the tree.  `room` is the number of levels
that may still be opened; since every way back to a whole expression opens one, it also bounds the
recursion.
-/

namespace EventNet

namespace Parser

/-- How many levels may be open at once. -/
def maxDepth : Nat := 100

/-- What a parser answers: a result and the tokens that follow. -/
abbrev Answer (α : Type) := Except ExprError (α × List Spanned)

/-- The next token. -/
def next : List Spanned → Spanned
  | [] => ⟨.eof, 0⟩
  | t :: _ => t

/-- Where the token after the next one starts; the end of the text has no successor. -/
def positionAfter : List Spanned → Nat
  | [] => 0
  | [t] => t.position
  | _ :: t :: _ => t.position

/-- A syntax error at the next token. -/
def fail {α : Type} (fault : SyntaxFault) (ts : List Spanned) : Except ExprError α :=
  .error (.parse fault (next ts).position)

/-- The refusal to open a further level. -/
def tooDeep {α : Type} : Except ExprError α :=
  .error (.tooDeep maxDepth)

/-- Pass over a token that has to come next. -/
def expect (wanted : Token) (ts : List Spanned) : Except ExprError (List Spanned) :=
  if (next ts).token = wanted then .ok ts.tail
  else fail (.expected wanted (next ts).token) ts

/-- The operator a token stands for on a tier: products are tier 0 and `||` is tier 4. -/
def operator? : (tier : Nat) → Token → Option (Expr → Expr → Expr)
  | 4, .or => some (.logical .or)
  | 3, .and => some (.logical .and)
  | 2, .eq => some (.binary .eq)
  | 2, .ne => some (.binary .ne)
  | 2, .lt => some (.binary .lt)
  | 2, .le => some (.binary .le)
  | 2, .gt => some (.binary .gt)
  | 2, .ge => some (.binary .ge)
  | 1, .plus => some (.binary .add)
  | 1, .minus => some (.binary .sub)
  | 0, .star => some (.binary .mul)
  | 0, .slash => some (.binary .div)
  | 0, .percent => some (.binary .rem)
  | _, _ => none

/-- The operator a token stands for before an operand. -/
def unaryOperator? : Token → Option UnaryOp
  | .not => some .not
  | .minus => some .neg
  | _ => none

/-- The literal a token stands for. -/
def literal? : Token → Option Value
  | .number x => some (.number x)
  | .str s => some (.str s)
  | .true => some (.bool true)
  | .false => some (.bool false)
  | .nil => some .null
  | _ => none

/-- Whether a token continues an operand. -/
def startsLink : Token → Bool
  | .leftBracket => true
  | .dot => true
  | .leftParen => true
  | _ => false

/-- Items separated by commas up to a closing parenthesis; `fuel` bounds their number. -/
def separated (item : List Spanned → Answer Expr) :
    (fuel : Nat) → List Spanned → Answer (List Expr)
  | 0, ts => fail (.argumentSeparator (next ts).token) ts
  | fuel + 1, ts =>
    match item ts with
    | .error e => .error e
    | .ok (e, ts) =>
      match (next ts).token with
      | .comma =>
        match separated item fuel ts.tail with
        | .error e => .error e
        | .ok (es, ts) => .ok (e :: es, ts)
      | .rightParen => .ok ([e], ts.tail)
      | found => .error (.parse (.argumentSeparator found) (positionAfter ts))

/-- An argument list after its opening parenthesis. -/
def arguments (item : List Spanned → Answer Expr) (ts : List Spanned) : Answer (List Expr) :=
  if (next ts).token = .rightParen then .ok ([], ts.tail)
  else separated item (ts.length + 1) ts

mutual

/-- A whole expression, which opens a level. -/
def expression (room : Nat) (ts : List Spanned) : Answer Expr :=
  match room with
  | 0 => tooDeep
  | room + 1 => binary room 4 ts
termination_by 16 * room

/-- A chain on a tier, or on a tighter one. -/
def binary (room tier : Nat) (ts : List Spanned) : Answer Expr :=
  match operand room tier ts with
  | .error e => .error e
  | .ok (left, ts) => links room tier left ts
termination_by 16 * room + 5 + 2 * tier

/-- What a tier joins: chains of the next tighter tier. -/
def operand (room tier : Nat) (ts : List Spanned) : Answer Expr :=
  match tier with
  | 0 => unary room ts
  | tier + 1 => binary room tier ts
termination_by 16 * room + 4 + 2 * tier

/-- The links of a chain whose first operands are `left`. -/
def links (room tier : Nat) (left : Expr) (ts : List Spanned) : Answer Expr :=
  match operator? tier (next ts).token with
  | none => .ok (left, ts)
  | some combine =>
    match room with
    | 0 => tooDeep
    | room + 1 =>
      match operand room tier ts.tail with
      | .error e => .error e
      | .ok (right, ts) => links room tier (combine left right) ts
termination_by 16 * room + 4 + 2 * tier

/-- An operand with the operators before it. -/
def unary (room : Nat) (ts : List Spanned) : Answer Expr :=
  match unaryOperator? (next ts).token with
  | none => postfixed room ts
  | some op =>
    match room with
    | 0 => tooDeep
    | room + 1 =>
      match unary room ts.tail with
      | .error e => .error e
      | .ok (e, ts) => .ok (.unary op e, ts)
termination_by 16 * room + 3

/-- An operand with what selects from it or calls it. -/
def postfixed (room : Nat) (ts : List Spanned) : Answer Expr :=
  match primary room ts with
  | .error e => .error e
  | .ok (e, ts) => selections room e ts
termination_by 16 * room + 2

/-- The indexes, fields and calls that follow `target`. -/
def selections (room : Nat) (target : Expr) (ts : List Spanned) : Answer Expr :=
  if startsLink (next ts).token then
    match room with
    | 0 => tooDeep
    | room + 1 =>
      match (next ts).token with
      | .leftBracket =>
        match expression room ts.tail with
        | .error e => .error e
        | .ok (key, ts) =>
          match expect .rightBracket ts with
          | .error e => .error e
          | .ok ts => selections room (.index target key) ts
      | .dot =>
        match (next ts.tail).token with
        | .ident name => selections room (.field target name) ts.tail.tail
        | found => fail (.fieldName found) ts.tail
      | _ =>
        match target with
        | .ident function =>
          match arguments (fun ts => expression room ts) ts.tail with
          | .error e => .error e
          | .ok (args, ts) => selections room (.call function args) ts
        | _ => fail .notCallable ts
  else .ok (target, ts)
termination_by 16 * room + 1

/-- A literal, a name or an expression in parentheses. -/
def primary (room : Nat) (ts : List Spanned) : Answer Expr :=
  match (next ts).token with
  | .ident name => .ok (.ident name, ts.tail)
  | .leftParen =>
    match expression room ts.tail with
    | .error e => .error e
    | .ok (e, ts) =>
      match expect .rightParen ts with
      | .error e => .error e
      | .ok ts => .ok (e, ts)
  | found =>
    match literal? found with
    | some value => .ok (.literal value, ts.tail)
    | none => fail (.unexpected found) ts
termination_by 16 * room + 1

end

/-- An expression that fills a list of tokens. -/
def whole (ts : List Spanned) : Except ExprError Expr :=
  match expression maxDepth ts with
  | .error e => .error e
  | .ok (e, ts) =>
    if (next ts).token = .eof then .ok e else fail (.trailing (next ts).token) ts

end Parser

/-- The expression a text is. -/
def Expr.parse (text : String) : Except ExprError Expr :=
  match tokenize text with
  | .error e => .error e
  | .ok ts => Parser.whole ts

end EventNet
