import EventNet.Expr.Basic
import EventNet.Expr.Token

/-!
What can go wrong with an expression, by cause, and how each cause is told.
-/

namespace EventNet

/-- Why a text is not an expression. -/
inductive SyntaxFault where
  | unexpectedCharacter (c : Char)
  | unterminatedString
  | unknownEscape (c : Char)
  /-- A complete expression is followed by something else. -/
  | trailing (found : Token)
  /-- A bracket is not closed where it has to be. -/
  | expected (wanted found : Token)
  | fieldName (found : Token)
  /-- Something other than a name is called. -/
  | notCallable
  | argumentSeparator (found : Token)
  /-- A token that starts no operand. -/
  | unexpected (found : Token)
  deriving DecidableEq, Repr

/-- The wording of a fault of the text. -/
def SyntaxFault.message : SyntaxFault → String
  | .unexpectedCharacter c => "unexpected character '" ++ c.toString ++ "'"
  | .unterminatedString => "unterminated string literal"
  | .unknownEscape c => "unknown escape sequence '\\" ++ c.toString ++ "'"
  | .trailing found => "unexpected " ++ found.describe ++ " after expression"
  | .expected wanted found => "expected " ++ wanted.describe ++ ", found " ++ found.describe
  | .fieldName found => "expected field name after '.', found " ++ found.describe
  | .notCallable => "only named functions can be called"
  | .argumentSeparator found =>
    "expected ',' or ')' in argument list, found " ++ found.describe
  | .unexpected found => "unexpected " ++ found.describe

/-- Why values of certain kinds cannot be combined. -/
inductive TypeFault where
  | logicalOperand (op : LogicalOp) (got : Kind)
  | unaryOperand (op : UnaryOp) (got : Kind)
  | comparison (op : BinaryOp) (left right : Kind)
  | arithmetic (op : BinaryOp) (left right : Kind)
  | mapKey (got : Kind)
  | listIndex (got : Kind)
  | notIndexable (got : Kind)
  | notString (function : String) (got : Kind)
  | notStrings (function : String) (first second : Kind)
  | notNumber (function : String) (got : Kind)
  | notNumbers (function : String) (got : Kind)
  | noLength (got : Kind)
  | memberKey (got : Kind)
  | noMembers (container member : Kind)
  deriving DecidableEq, Repr

/-- The wording of a type fault. -/
def TypeFault.message : TypeFault → String
  | .logicalOperand op got =>
    (match op with | .and => "And" | .or => "Or") ++ " expects bool operands, got " ++ got.name
  | .unaryOperand .not got => "'!' expects bool, got " ++ got.name
  | .unaryOperand .neg got => "'-' expects number, got " ++ got.name
  | .comparison op left right =>
    "cannot compare " ++ left.name ++ " " ++ op.symbol ++ " " ++ right.name
  | .arithmetic op left right =>
    "'" ++ op.symbol ++ "' expects numeric operands, got " ++ left.name ++ " and " ++ right.name
  | .mapKey got => "invalid map key of type " ++ got.name
  | .listIndex got => "list index must be a number, got " ++ got.name
  | .notIndexable got => "cannot index into " ++ got.name
  | .notString function got => function ++ " expects a string argument, got " ++ got.name
  | .notStrings function first second =>
    function ++ " expects two strings, got " ++ first.name ++ " and " ++ second.name
  | .notNumber function got => function ++ ": expected number, got " ++ got.name
  | .notNumbers function got => function ++ ": expected numbers, got " ++ got.name
  | .noLength got => "len: unsupported type " ++ got.name
  | .memberKey got => "contains: invalid map key type " ++ got.name
  | .noMembers container member =>
    "contains: unsupported types " ++ container.name ++ " and " ++ member.name

/-- How many arguments a function takes. -/
inductive Arity where
  | exactly (n : Nat)
  | atLeast (n : Nat)
  deriving DecidableEq, Repr

/-- The wording of an argument count. -/
def Arity.text : Arity → String
  | .exactly n => toString n
  | .atLeast n => "at least " ++ toString n

/-- Why an expression cannot be compiled or evaluated. -/
inductive ExprError where
  /-- The text is no expression; the offset is in bytes. -/
  | parse (fault : SyntaxFault) (position : Nat)
  | tooDeep (limit : Nat)
  | unknownIdentifier (name : String)
  | unknownFunction (name : String)
  | type (fault : TypeFault)
  | divisionByZero
  | arity (function : String) (expected : Arity) (got : Nat)
  /-- A condition whose value is not a truth value. -/
  | notBoolean (got : Kind)
  | notNumeric (got : Kind)
  deriving DecidableEq, Repr

/-- The wording of an expression error. -/
def ExprError.message : ExprError → String
  | .parse fault position => "parse error at " ++ toString position ++ ": " ++ fault.message
  | .tooDeep limit => "expression nesting exceeds maximum depth of " ++ toString limit
  | .unknownIdentifier name => "unknown identifier: " ++ name
  | .unknownFunction name => "unknown function: " ++ name
  | .type fault => "type error: " ++ fault.message
  | .divisionByZero => "division by zero"
  | .arity function expected got =>
    function ++ ": expected " ++ expected.text ++ " argument(s), got " ++ toString got
  | .notBoolean got => "expression did not evaluate to a boolean (got " ++ got.name ++ ")"
  | .notNumeric got => "expression did not evaluate to a number (got " ++ got.name ++ ")"

end EventNet
