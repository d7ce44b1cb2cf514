import EventNet.Expr.Compiled
import EventNet.Fault.Basic
import EventNet.Net.Definition

/-!
Well-formed definitions.

`Definition.check` goes through states, actions, arcs and constraints in this order and stops at the
first thing that is wrong.  A `Schema` is a definition that passed, together with positions by id:
where each state and action is declared, and for each action the positions of the arcs that run into
it and out of it, in declaration order.
-/

namespace EventNet

/-- The greatest number of keys of an arc. -/
def maxArcKeys : Nat := 2

/-- Whether a starting count is a finite whole number that is not negative. -/
def isInitialCount : Value → Bool
  | .number x => 0 ≤ x && Double.isIntegral x
  | _ => false

namespace Definition

/-- Check states, given the ids of those before them. -/
def checkStates (seen : List String) : List StateDecl → Except SchemaFault Unit
  | [] => .ok ()
  | s :: rest =>
    if s.id.isEmpty then .error .emptyStateId
    else if seen.contains s.id then .error (.duplicateState s.id)
    else
      match s.isToken, s.initial with
      | true, some v =>
        if isInitialCount v then checkStates (s.id :: seen) rest
        else .error (.invalidInitial s.id v)
      | _, _ => checkStates (s.id :: seen) rest

/-- Check actions, given the ids of all states and of the actions before them. -/
def checkActions (states seen : List String) : List Action → Except SchemaFault Unit
  | [] => .ok ()
  | a :: rest =>
    if a.id.isEmpty then .error .emptyActionId
    else if states.contains a.id then .error (.stateAndAction a.id)
    else if seen.contains a.id then .error (.duplicateAction a.id)
    else
      match a.guard.map Expr.parse with
      | some (.error e) => .error (.guard a.id e)
      | _ => checkActions states (a.id :: seen) rest

/-- The state an arc touches and whether the arc runs into an action; none if it does not join a
state and an action. -/
def arcState? (states : List StateDecl) (actions : List String) (a : Arc) :
    Option (StateDecl × Bool) :=
  let source := states.find? (·.id == a.source)
  let target := states.find? (·.id == a.target)
  match source, actions.contains a.target, actions.contains a.source, target with
  | some s, true, _, _ => some (s, true)
  | _, _, true, some s => some (s, false)
  | _, _, _, _ => none

/-- Check an arc. -/
def checkArc (states : List StateDecl) (actions : List String) (a : Arc) :
    Except SchemaFault Unit :=
  match arcState? states actions a with
  | none => .error (.looseArc a.source a.target)
  | some (state, intoAction) =>
    if state.isToken && a.weight < 1 then .error (.arcWeight a.source a.target a.weight)
    else if maxArcKeys < a.keys.length then
      .error (.arcKeys a.source a.target a.keys.length maxArcKeys)
    else if a.inhibitor && !(intoAction && state.isToken) then
      .error (.inhibitor a.source a.target)
    else .ok ()

/-- Check arcs. -/
def checkArcs (states : List StateDecl) (actions : List String) :
    List Arc → Except SchemaFault Unit
  | [] => .ok ()
  | a :: rest =>
    match checkArc states actions a with
    | .error f => .error f
    | .ok () => checkArcs states actions rest

/-- Check constraints, given the ids of those before them. -/
def checkConstraints (seen : List String) : List Constraint → Except SchemaFault Unit
  | [] => .ok ()
  | c :: rest =>
    if seen.contains c.id then .error (.duplicateConstraint c.id)
    else
      match Expr.parse c.expr with
      | .error e => .error (.constraint c.id e)
      | .ok _ => checkConstraints (c.id :: seen) rest

/-- The ids of the states. -/
def stateIds (d : Definition) : List String :=
  d.states.map (·.id)

/-- The ids of the actions. -/
def actionIds (d : Definition) : List String :=
  d.actions.map (·.id)

/-- Check a definition. -/
def check (d : Definition) : Except SchemaFault Unit :=
  match checkStates [] d.states with
  | .error f => .error f
  | .ok () =>
    match checkActions d.stateIds [] d.actions with
    | .error f => .error f
    | .ok () =>
      match checkArcs d.states d.actionIds d.arcs with
      | .error f => .error f
      | .ok () => checkConstraints [] d.constraints

end Definition

/-- Positions of declarations by id. -/
structure Index where
  states : Dict Nat
  actions : Dict Nat
  /-- By action, the positions of the arcs that run into it. -/
  inputs : Dict (List Nat)
  /-- By action, the positions of the arcs that run out of it. -/
  outputs : Dict (List Nat)

namespace Index

/-- Positions of ids that are counted from `start`. -/
def positions (start : Nat) : List String → List (String × Nat)
  | [] => []
  | id :: rest => (id, start) :: positions (start + 1) rest

/-- Add a position to the list of an id. -/
def push (d : Dict (List Nat)) (id : String) (position : Nat) : Dict (List Nat) :=
  d.insert id ((d.get? id).getD [] ++ [position])

/-- Sort arcs by the action they belong to: one that does not run into an action runs out of one. -/
def sortArcs (actions : Dict Nat) :
    (position : Nat) → (inputs outputs : Dict (List Nat)) → List Arc →
      Dict (List Nat) × Dict (List Nat)
  | _, inputs, outputs, [] => (inputs, outputs)
  | i, inputs, outputs, a :: rest =>
    if actions.contains a.target then sortArcs actions (i + 1) (push inputs a.target i) outputs rest
    else sortArcs actions (i + 1) inputs (push outputs a.source i) rest

/-- The positions of all declarations of a definition. -/
def ofDefinition (d : Definition) : Index :=
  let actions := Dict.ofList (positions 0 d.actionIds)
  let (inputs, outputs) := sortArcs actions 0 [] [] d.arcs
  ⟨Dict.ofList (positions 0 d.stateIds), actions, inputs, outputs⟩

end Index

/-- A well-formed definition with its index. -/
structure Schema where
  definition : Definition
  index : Index
  checked : definition.check = .ok ()
  indexed : index = .ofDefinition definition

namespace Schema

/-- Check a definition and index it. -/
def ofDefinition (d : Definition) : Except SchemaFault Schema :=
  match h : d.check with
  | .error f => .error f
  | .ok () => .ok ⟨d, .ofDefinition d, h, rfl⟩

/-- The name of the schema. -/
def name (s : Schema) : String :=
  s.definition.name

/-- The declared states. -/
def states (s : Schema) : List StateDecl :=
  s.definition.states

/-- The declared actions. -/
def actions (s : Schema) : List Action :=
  s.definition.actions

/-- The declared constraints. -/
def constraints (s : Schema) : List Constraint :=
  s.definition.constraints

/-- The state of an id. -/
def state? (s : Schema) (id : String) : Option StateDecl :=
  (s.index.states.get? id).bind (s.definition.states[·]?)

/-- The action of an id. -/
def action? (s : Schema) (id : String) : Option Action :=
  (s.index.actions.get? id).bind (s.definition.actions[·]?)

/-- The arcs at some positions. -/
def arcsAt (s : Schema) (positions : Option (List Nat)) : List Arc :=
  (positions.getD []).filterMap (s.definition.arcs[·]?)

/-- The arcs that run into an action, in declaration order. -/
def inputs (s : Schema) (action : String) : List Arc :=
  s.arcsAt (s.index.inputs.get? action)

/-- The arcs that run out of an action, in declaration order. -/
def outputs (s : Schema) (action : String) : List Arc :=
  s.arcsAt (s.index.outputs.get? action)

end Schema

end EventNet
