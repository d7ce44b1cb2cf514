import EventNet.Expr.Compiled
import EventNet.Net.Marking

/-!
How guards and constraints get their truth values.

A guard is tested in bindings; a constraint is tested in the token counts, each bound to the name of
its state, with the aggregate functions over them.  `GuardEvaluator` is any way to do both, and
`GuardEvaluator.standard` the one that reads the texts as expressions.  `CachingEvaluator` remembers
every expression it has read.
-/

namespace EventNet

/-- A way to test guards and constraints. -/
structure GuardEvaluator where
  guard : String → Bindings → Except ExprError Bool
  constraint : String → Dict Int → Except ExprError Bool

/-- The scope of a guard. -/
def guardScope (functions : Registry) (bindings : Bindings) : Expr.Scope :=
  ⟨bindings, functions⟩

/-- The scope of a constraint: counts by state, and aggregates in place of functions of their
names. -/
def constraintScope (functions : Registry) (tokens : Dict Int) : Expr.Scope :=
  ⟨tokens.mapValues Value.ofInt, functions.extend (Registry.aggregates tokens)⟩

/-- Guards and constraints as expressions that can call some functions. -/
def GuardEvaluator.standard (functions : Registry) : GuardEvaluator where
  guard source bindings := Expr.testText source (guardScope functions bindings)
  constraint source tokens := Expr.testText source (constraintScope functions tokens)

/-- An evaluator that keeps what it has read. -/
structure CachingEvaluator where
  /-- Expressions by their text. -/
  cache : Dict CompiledExpr
  /-- None where no registry was given, which acts as an empty one. -/
  functions : Option Registry

namespace CachingEvaluator

/-- An evaluator that has read nothing yet. -/
def fresh (functions : Option Registry) : CachingEvaluator :=
  ⟨[], functions⟩

/-- The expression of a text, from the cache or else into it; a text that is no expression is not
kept. -/
def compiled (e : CachingEvaluator) (source : String) :
    Except ExprError CompiledExpr × CachingEvaluator :=
  match e.cache.get? source with
  | some c => (.ok c, e)
  | none =>
    match CompiledExpr.compile source with
    | .ok c => (.ok c, { e with cache := e.cache.insert source c })
    | .error err => (.error err, e)

/-- Test a text in a scope. -/
def testIn (e : CachingEvaluator) (source : String) (scope : Expr.Scope) :
    Except ExprError Bool × CachingEvaluator :=
  let (c, e) := e.compiled source
  (c.bind (·.test scope), e)

/-- Test a guard. -/
def guard (e : CachingEvaluator) (source : String) (bindings : Bindings) :
    Except ExprError Bool × CachingEvaluator :=
  e.testIn source (guardScope (e.functions.getD []) bindings)

/-- Test a constraint. -/
def constraint (e : CachingEvaluator) (source : String) (tokens : Dict Int) :
    Except ExprError Bool × CachingEvaluator :=
  e.testIn source (constraintScope (e.functions.getD []) tokens)

/-- How many expressions are kept. -/
def cached (e : CachingEvaluator) : Nat :=
  e.cache.length

/-- The form shown for inspection. -/
def inspect (e : CachingEvaluator) : String :=
  let functions := match e.functions with
    | none => "None"
    | some r => "Some(" ++ r.inspect ++ ")"
  "ExprEvaluator \x7b cached: " ++ toString e.cached ++ ", functions: " ++ functions ++ " \x7d"

end CachingEvaluator

end EventNet
