import EventNet.Net.Guard
import EventNet.Number.Word

/-!
Firing the actions of a net.

An action is enabled when each of its input arcs from a token state finds enough tokens, or, for an
inhibitor, none.  Firing goes through the input arcs and then the output arcs, in declaration order,
and changes the marking arc by arc: tokens move by the weight of the arc, and with bindings an entry
of a map state moves by the bound amount, while any other data state takes the bound value of its
output arcs.  An arc can fail halfway, and constraints are checked only at the end; `fire` then puts
back the marking from before, so a failed call leaves none of its changes behind.
-/

namespace EventNet

/-- A net in operation: a schema with a live marking. -/
structure Net where
  schema : Schema
  marking : Marking
  /-- Without an evaluator guards and constraints are not looked at. -/
  evaluator : Option GuardEvaluator
  checksConstraints : Bool

/-- A constraint that does not hold. -/
structure Violation where
  constraint : Constraint
  /-- Why it has no truth value, if that is what is wrong. -/
  error : Option ExprError
  deriving Repr

/-- The fault of a violated constraint. -/
def Violation.fault (v : Violation) : Fault :=
  match v.error with
  | some e => .constraintEvaluation v.constraint.id e
  | none => .constraintViolated v.constraint.id v.constraint.expr

/-- Changes of a marking that may fail; what was changed before a failure stays changed. -/
abbrev Update := ExceptT Fault (StateM Marking)

namespace Marking

/-- Add to the count of a state, which is kept in 64 bits. -/
def addTokens (m : Marking) (state : String) (n : Int) : Marking :=
  { m with tokens := m.tokens.insert state (Word.wrap (m.count state + n)) }

/-- Give a data state a value. -/
def setValue (m : Marking) (state : String) (v : Value) : Marking :=
  { m with data := m.data.insert state v }

end Marking

/-- Add to the number at the end of a path of keys.  Nil and absent entries count as empty maps on
the way and as zero at the end; `arrivedBy` is the key that led here, none at the root. -/
def Value.addAt (state : String) (delta : Float) (arrivedBy : Option String) :
    (keys : List String) → Value → Except BindingFault Value
  | [], .null => .ok (.number (0 + delta))
  | [], .number x => .ok (.number (x + delta))
  | [], v => .error (.notNumber state v.kind)
  | k :: rest, v =>
    let entries? : Option (Dict Value) := match v with
      | .null => some []
      | .map entries => some entries
      | _ => none
    match entries? with
    | none =>
      .error (match arrivedBy with
        | none => .notMap state
        | some key => .notInnerMap state key)
    | some entries =>
      let entry := (entries.get? k).getD (if rest.isEmpty then .zero else .emptyMap)
      (addAt state delta (some k) rest entry).map fun new => .map (entries.insert k new)

/-- The keys an arc selects by. -/
def Arc.selectedKeys (bindings : Bindings) : List String → Except BindingFault (List String)
  | [] => .ok []
  | name :: rest =>
    match (Dict.get? bindings name).bind Value.toKey? with
    | none => .error (.key name)
    | some k => (selectedKeys bindings rest).map (k :: ·)

/-- The value of a data state after an arc has acted on it; none if the arc leaves it alone. -/
def Arc.transformed (a : Arc) (state : StateDecl) (bindings : Bindings) (add : Bool)
    (held : Option Value) : Except BindingFault (Option Value) :=
  if !state.isMap || a.keys.isEmpty then
    if add then
      match Dict.get? bindings a.value with
      | some v => .ok (some v)
      | none => .error (.missing a.value)
    else .ok none
  else
    match Arc.selectedKeys bindings a.keys with
    | .error f => .error f
    | .ok keys =>
      match (Dict.get? bindings a.value).bind Value.number? with
      | none => .error (.amount a.value)
      | some amount =>
        let delta := if add then amount else -amount
        (Value.addAt state.id delta none keys (held.getD .emptyMap)).map some

namespace Net

/-- A net at the start of its schema, with constraints checked. -/
def start (schema : Schema) (evaluator : Option GuardEvaluator) : Net :=
  ⟨schema, .initial schema, evaluator, true⟩

/-- Whether an input arc allows its action. -/
def allows (net : Net) (a : Arc) : Bool :=
  match net.schema.state? a.source with
  | none => false
  | some state =>
    if !state.isToken then true
    else if a.inhibitor then net.marking.count a.source == 0
    else a.weight ≤ net.marking.count a.source

/-- Whether an action is declared and all its input arcs allow it. -/
def enabled (net : Net) (action : String) : Bool :=
  (net.schema.action? action).isSome && (net.schema.inputs action).all net.allows

/-- The enabled actions in declaration order. -/
def enabledActions (net : Net) : List String :=
  (net.schema.actions.filter fun a => net.enabled a.id).map (·.id)

/-- Act on a data state through an arc. -/
def transform (action : String) (state : StateDecl) (a : Arc) (bindings : Bindings) (add : Bool) :
    Update Unit := do
  let m ← getThe Marking
  match a.transformed state bindings add (m.value? state.id) with
  | .error f => throw (.invalidBinding action f)
  | .ok none => pure ()
  | .ok (some v) => set (m.setValue state.id v)

/-- Act through an input arc. -/
def takeInput (schema : Schema) (action : String) (bindings : Option Bindings) (a : Arc) :
    Update Unit := do
  match schema.state? a.source with
  | none => pure ()
  | some state =>
    if state.isToken then
      if a.inhibitor then pure ()
      else modifyThe Marking (·.addTokens state.id (-a.weight))
    else
      match bindings with
      | none => pure ()
      | some b => transform action state a b false

/-- Act through an output arc. -/
def giveOutput (schema : Schema) (action : String) (bindings : Option Bindings) (a : Arc) :
    Update Unit := do
  match schema.state? a.target with
  | none => pure ()
  | some state =>
    if state.isToken then modifyThe Marking (·.addTokens state.id a.weight)
    else
      match bindings with
      | none => pure ()
      | some b => transform action state a b true

/-- Go through a list of arcs. -/
def eachArc (act : Arc → Update Unit) : List Arc → Update Unit
  | [] => pure ()
  | a :: rest => do
    act a
    eachArc act rest

/-- Act through all arcs of an action, inputs first. -/
def move (schema : Schema) (action : String) (bindings : Option Bindings) : Update Unit := do
  eachArc (takeInput schema action bindings) (schema.inputs action)
  eachArc (giveOutput schema action bindings) (schema.outputs action)

/-- What is wrong with a constraint in a marking. -/
def violation? (evaluator : GuardEvaluator) (tokens : Dict Int) (c : Constraint) :
    Option Violation :=
  match evaluator.constraint c.expr tokens with
  | .ok true => none
  | .ok false => some ⟨c, none⟩
  | .error e => some ⟨c, some e⟩

/-- The constraints that do not hold, in declaration order. -/
def violations (net : Net) : List Violation :=
  match net.evaluator with
  | none => []
  | some evaluator => net.schema.constraints.filterMap (violation? evaluator net.marking.tokens)

/-- Fire an action whose guard is settled. -/
def fire (net : Net) (action : Action) (bindings : Option Bindings) : Except Fault Unit × Net :=
  if !net.enabled action.id then (.error (.actionNotEnabled action.id), net)
  else
    let before := net.marking
    let (outcome, after) := (move net.schema action.id bindings).run net.marking
    let moved := { net with marking := after }
    match outcome with
    | .error f => (.error f, { moved with marking := before })
    | .ok () =>
      match (if net.checksConstraints then moved.violations.head? else none) with
      | some v => (.error v.fault, { moved with marking := before })
      | none => (.ok (), moved)

/-- Execute an action without bindings: guards and data are left aside. -/
def execute (net : Net) (action : String) : Except Fault Unit × Net :=
  match net.schema.action? action with
  | none => (.error (.actionNotFound action), net)
  | some a => net.fire a none

/-- What a guard can refer to: data, then counts, then bindings, each in place of those before. -/
def guardContext (net : Net) (bindings : Bindings) : Bindings :=
  ((Dict.insertAll [] net.marking.data).insertAll
    (net.marking.tokens.mapValues Value.ofInt)).insertAll bindings

/-- Why a guard refuses, if it does. -/
def guardFault? (net : Net) (action : Action) (bindings : Bindings) : Option Fault :=
  match action.guard, net.evaluator with
  | some guard, some evaluator =>
    match evaluator.guard guard (net.guardContext bindings) with
    | .ok true => none
    | .ok false => some (.guardNotSatisfied action.id guard)
    | .error e => some (.guardEvaluation action.id e)
  | _, _ => none

/-- Execute an action with bindings, if its guard allows it. -/
def executeWith (net : Net) (action : String) (bindings : Bindings) : Except Fault Unit × Net :=
  match net.schema.action? action with
  | none => (.error (.actionNotFound action), net)
  | some a =>
    match net.guardFault? a bindings with
    | some f => (.error f, net)
    | none => net.fire a (some bindings)

/-- The signals of a call that fires an action. -/
def signals : Except Fault Unit → List Signal
  | .ok () => [.log .trace "action fired"]
  | .error f =>
    match f with
    | .constraintViolated .. | .constraintEvaluation .. =>
      .log .debug "constraint failed, rolling back" :: f.signals
    | f => f.signals

/-- A call with its signals. -/
def traced (call : Except Fault Unit × Net) : Traced (Except Fault Unit × Net) :=
  ⟨call, signals call.1⟩

/-- The form shown for inspection. -/
def inspect (net : Net) : String :=
  "Runtime \x7b schema: " ++ Text.quoted net.schema.name ++ ", snapshot: " ++ net.marking.inspect ++
    ", has_evaluator: " ++ Value.boolText net.evaluator.isSome ++ ", check_constraints: " ++
      Value.boolText net.checksConstraints ++ " \x7d"

end Net

end EventNet
