import EventNet.Value.Basic

/-!
Expressions of guards and constraints.

An expression is a tree over literals and identifiers.  Identifiers are looked up in bindings;
function names live in a name space of their own and are not identifiers.
-/

namespace EventNet

/-- Operators before an operand. -/
inductive UnaryOp where
  | not
  | neg
  deriving DecidableEq, Repr

/-- Operators between two operands that are both evaluated. -/
inductive BinaryOp where
  | add | sub | mul | div | rem
  | eq | ne | lt | le | gt | ge
  deriving DecidableEq, Repr

/-- The sign of an operator. -/
def BinaryOp.symbol : BinaryOp → String
  | .add => "+"
  | .sub => "-"
  | .mul => "*"
  | .div => "/"
  | .rem => "%"
  | .eq => "=="
  | .ne => "!="
  | .lt => "<"
  | .le => "<="
  | .gt => ">"
  | .ge => ">="

/-- Operators whose right operand is evaluated only if the left one does not settle the result. -/
inductive LogicalOp where
  | and
  | or
  deriving DecidableEq, Repr

/-- An expression. -/
inductive Expr where
  | literal (value : Value)
  | ident (name : String)
  | unary (op : UnaryOp) (operand : Expr)
  | binary (op : BinaryOp) (left right : Expr)
  | logical (op : LogicalOp) (left right : Expr)
  /-- An entry of a map or a slot of a list, selected by an expression. -/
  | index (target key : Expr)
  /-- An entry of a map, selected by name. -/
  | field (target : Expr) (name : String)
  | call (function : String) (args : List Expr)
  deriving Inhabited, Repr

namespace Expr

mutual

/-- The names of all occurrences of identifiers, from left to right. -/
def occurrences : Expr → List String
  | .literal _ => []
  | .ident name => [name]
  | .unary _ operand => occurrences operand
  | .binary _ left right => occurrences left ++ occurrences right
  | .logical _ left right => occurrences left ++ occurrences right
  | .index target key => occurrences target ++ occurrences key
  | .field target _ => occurrences target
  | .call _ args => occurrencesAll args

/-- `occurrences` for every argument. -/
def occurrencesAll : List Expr → List String
  | [] => []
  | e :: rest => occurrences e ++ occurrencesAll rest

end

/-- The identifiers an expression refers to, each once, in the order of first use. -/
def identifiers (e : Expr) : List String :=
  e.occurrences.eraseDups

end Expr

end EventNet
