import EventNet.Expr.Parser
import EventNet.Expr.Eval

/-!
Expressions with the text they were read from, the text forms of expressions, and one-shot
evaluation.
-/

namespace EventNet

/-- An expression and its text. -/
structure CompiledExpr where
  source : String
  ast : Expr

namespace CompiledExpr

/-- Read an expression. -/
def compile (text : String) : Except ExprError CompiledExpr :=
  (Expr.parse text).map fun e => ⟨text, e⟩

/-- The value in a scope. -/
def eval (c : CompiledExpr) (scope : Expr.Scope) : Except ExprError Value :=
  c.ast.eval scope

/-- The truth in a scope. -/
def test (c : CompiledExpr) (scope : Expr.Scope) : Except ExprError Bool :=
  c.ast.test scope

/-- The number in a scope. -/
def measure (c : CompiledExpr) (scope : Expr.Scope) : Except ExprError Float :=
  c.ast.measure scope

/-- The form shown for inspection. -/
def inspect (c : CompiledExpr) : String :=
  "CompiledExpr(" ++ Text.quoted c.source ++ ")"

end CompiledExpr

namespace Expr

/-- Read a text as a condition and test it. -/
def testText (text : String) (scope : Scope) : Except ExprError Bool :=
  (CompiledExpr.compile text).bind (·.test scope)

/-- Read a text and evaluate it to a number. -/
def measureText (text : String) (scope : Scope) : Except ExprError Float :=
  (CompiledExpr.compile text).bind (·.measure scope)

/-- The words of an operator before an operand in the outline of a tree. -/
def unaryWord : UnaryOp → String
  | .not => "not"
  | .neg => "neg"

/-- The words of a logical operator in the outline of a tree. -/
def logicalWord : LogicalOp → String
  | .and => "and"
  | .or => "or"

mutual

/-- The tree in parentheses, every operator before its operands. -/
def outline : Expr → String
  | .literal v => v.text
  | .ident name => name
  | .unary op operand => "(" ++ unaryWord op ++ " " ++ outline operand ++ ")"
  | .binary op left right =>
    "(" ++ op.symbol ++ " " ++ outline left ++ " " ++ outline right ++ ")"
  | .logical op left right =>
    "(" ++ logicalWord op ++ " " ++ outline left ++ " " ++ outline right ++ ")"
  | .index target key => "(index " ++ outline target ++ " " ++ outline key ++ ")"
  | .field target name => "(field " ++ outline target ++ " " ++ name ++ ")"
  | .call function args => "(call " ++ function ++ outlineArgs args ++ ")"

/-- The arguments of a call, each after a space. -/
def outlineArgs : List Expr → String
  | [] => ""
  | e :: rest => " " ++ outline e ++ outlineArgs rest

end

end Expr

end EventNet
