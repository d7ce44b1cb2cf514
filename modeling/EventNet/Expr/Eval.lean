import EventNet.Expr.Function

/-!
The value of an expression.

Indexing never fails for want of an entry: a key without entry, a slot outside a list and a selection
from nil read as zero, or as an empty map where a further selection follows, so that a path through
missing maps reads as zero as a whole.  `&&` and `||` skip their right operand when the left one
settles the result, and the arguments of a call are evaluated before its function is looked up.
-/

namespace EventNet

namespace Expr

/-- What a missing entry reads as: an empty map if something is to be selected from it. -/
def missing (container : Bool) : Value :=
  if container then .emptyMap else .zero

/-- The entry a key selects from a value, none if it has none. -/
def select (target key : Value) : Except ExprError (Option Value) :=
  match target with
  | .map entries =>
    match key.toKey? with
    | some k => .ok (Dict.get? entries k)
    | none => .error (.type (.mapKey key.kind))
  | .list items =>
    match key with
    | .number x => .ok (if 0 ≤ x && Double.isIntegral x then items[Double.toIndex x]? else none)
    | key => .error (.type (.listIndex key.kind))
  | .null => .ok none
  | target => .error (.type (.notIndexable target.kind))

/-- The entry a key selects, with a stand-in for a missing one. -/
def selectOrMissing (container : Bool) (target key : Value) : Except ExprError Value :=
  (select target key).map fun found => found.getD (missing container)

/-- Apply an operator before an operand. -/
def applyUnary : UnaryOp → Value → Except ExprError Value
  | .not, .bool b => .ok (.bool (!b))
  | .neg, .number x => .ok (.number (-x))
  | op, v => .error (.type (.unaryOperand op v.kind))

/-- A comparison of numbers, false when one of them is not a number. -/
def compareNumbers (op : BinaryOp) (x y : Float) : Bool :=
  match op with
  | .lt => x < y
  | .le => x ≤ y
  | .gt => y < x
  | _ => y ≤ x

/-- A comparison of texts by their characters. -/
def compareStrings (op : BinaryOp) (s t : String) : Bool :=
  match op with
  | .lt => s < t
  | .le => !(t < s : Bool)
  | .gt => t < s
  | _ => !(s < t : Bool)

/-- Arithmetic on two numbers. -/
def arithmetic (op : BinaryOp) (x y : Float) : Except ExprError Float :=
  match op with
  | .add => .ok (x + y)
  | .sub => .ok (x - y)
  | .mul => .ok (x * y)
  | .div => if y == 0 then .error .divisionByZero else .ok (x / y)
  | _ => if y == 0 then .error .divisionByZero else .ok (Double.remainder x y)

/-- Apply an operator between two operands. -/
def applyBinary (op : BinaryOp) (l r : Value) : Except ExprError Value :=
  match op with
  | .eq => .ok (.bool (l == r))
  | .ne => .ok (.bool (!(l == r)))
  | .lt | .le | .gt | .ge =>
    match l, r with
    | .number x, .number y => .ok (.bool (compareNumbers op x y))
    | .str s, .str t => .ok (.bool (compareStrings op s t))
    | l, r => .error (.type (.comparison op l.kind r.kind))
  | .add | .sub | .mul | .div | .rem =>
    match op, l, r with
    | _, .number x, .number y => (arithmetic op x y).map .number
    | .add, .str s, .str t => .ok (.str (s ++ t))
    | op, l, r => .error (.type (.arithmetic op l.kind r.kind))

/-- The truth value of an operand of `&&` or `||`. -/
def logicalOperand (op : LogicalOp) : Value → Except ExprError Bool
  | .bool b => .ok b
  | v => .error (.type (.logicalOperand op v.kind))

/-- Whether the left operand settles the result. -/
def settles : LogicalOp → Bool → Bool
  | .and, b => !b
  | .or, b => b

/-- What an expression is evaluated in. -/
structure Scope where
  bindings : Bindings
  /-- Functions that come before the built-in ones. -/
  functions : Registry

/-- The function of a name. -/
def Scope.function? (scope : Scope) (name : String) : Option Function :=
  (Dict.get? scope.functions name).or (Dict.get? Registry.builtins name)

mutual

/-- The value of an expression; `container` says whether something is selected from it. -/
def evalIn (scope : Scope) (container : Bool) : Expr → Except ExprError Value
  | .literal v => .ok v
  | .ident name =>
    match Dict.get? scope.bindings name with
    | some v => .ok v
    | none => .error (.unknownIdentifier name)
  | .unary op operand =>
    match evalIn scope false operand with
    | .error e => .error e
    | .ok v => applyUnary op v
  | .binary op left right =>
    match evalIn scope false left with
    | .error e => .error e
    | .ok l =>
      match evalIn scope false right with
      | .error e => .error e
      | .ok r => applyBinary op l r
  | .logical op left right =>
    match (evalIn scope false left).bind (logicalOperand op) with
    | .error e => .error e
    | .ok l =>
      if settles op l then .ok (.bool l)
      else ((evalIn scope false right).bind (logicalOperand op)).map .bool
  | .index target key =>
    match evalIn scope true target with
    | .error e => .error e
    | .ok t =>
      match evalIn scope false key with
      | .error e => .error e
      | .ok k => selectOrMissing container t k
  | .field target name =>
    match evalIn scope true target with
    | .error e => .error e
    | .ok t => selectOrMissing container t (.str name)
  | .call function args =>
    match evalArgs scope args with
    | .error e => .error e
    | .ok values =>
      match scope.function? function with
      | some f => f values
      | none => .error (.unknownFunction function)

/-- The values of arguments, from left to right. -/
def evalArgs (scope : Scope) : List Expr → Except ExprError (List Value)
  | [] => .ok []
  | e :: rest =>
    match evalIn scope false e with
    | .error e => .error e
    | .ok v => (evalArgs scope rest).map (v :: ·)

end

/-! ### One result after the other

Every operator asks for the results of its operands in order and stops at the first that fails. -/

section

variable (scope : Scope) (container : Bool)

theorem evalIn_unary (op : UnaryOp) (operand : Expr) :
    evalIn scope container (.unary op operand) =
      (evalIn scope false operand).bind (applyUnary op) := by
  rw [evalIn]
  cases evalIn scope false operand <;> rfl

theorem evalIn_binary (op : BinaryOp) (left right : Expr) :
    evalIn scope container (.binary op left right) =
      (evalIn scope false left).bind fun l =>
        (evalIn scope false right).bind fun r => applyBinary op l r := by
  rw [evalIn]
  cases evalIn scope false left with
  | error e => rfl
  | ok l => cases evalIn scope false right <;> rfl

theorem evalIn_logical (op : LogicalOp) (left right : Expr) :
    evalIn scope container (.logical op left right) =
      ((evalIn scope false left).bind (logicalOperand op)).bind fun l =>
        if settles op l then .ok (.bool l)
        else ((evalIn scope false right).bind (logicalOperand op)).map .bool := by
  rw [evalIn]
  cases (evalIn scope false left).bind (logicalOperand op) <;> rfl

theorem evalIn_index (target key : Expr) :
    evalIn scope container (.index target key) =
      (evalIn scope true target).bind fun t =>
        (evalIn scope false key).bind fun k => selectOrMissing container t k := by
  rw [evalIn]
  cases evalIn scope true target with
  | error e => rfl
  | ok t => cases evalIn scope false key <;> rfl

theorem evalIn_field (target : Expr) (name : String) :
    evalIn scope container (.field target name) =
      (evalIn scope true target).bind fun t => selectOrMissing container t (.str name) := by
  rw [evalIn]
  cases evalIn scope true target <;> rfl

theorem evalIn_call (function : String) (args : List Expr) :
    evalIn scope container (.call function args) =
      (evalArgs scope args).bind fun values =>
        match scope.function? function with
        | some f => f values
        | none => .error (.unknownFunction function) := by
  rw [evalIn]
  cases evalArgs scope args <;> rfl

theorem evalArgs_cons (e : Expr) (rest : List Expr) :
    evalArgs scope (e :: rest) =
      (evalIn scope false e).bind fun v => (evalArgs scope rest).map (v :: ·) := by
  rw [evalArgs]
  cases evalIn scope false e <;> rfl

end

/-- The value of an expression. -/
def eval (scope : Scope) (e : Expr) : Except ExprError Value :=
  evalIn scope false e

/-- The truth of a condition. -/
def test (scope : Scope) (e : Expr) : Except ExprError Bool :=
  match e.eval scope with
  | .error e => .error e
  | .ok (.bool b) => .ok b
  | .ok v => .error (.notBoolean v.kind)

/-- The number an expression evaluates to. -/
def measure (scope : Scope) (e : Expr) : Except ExprError Float :=
  match e.eval scope with
  | .error e => .error e
  | .ok (.number x) => .ok x
  | .ok v => .error (.notNumeric v.kind)

end Expr

end EventNet
