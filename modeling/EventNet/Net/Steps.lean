import EventNet.Net.Format

/-!
Definitions as lists of steps.

A step is an array: the name of what it adds, and what belongs to it.  The short steps make the usual
states, actions and arcs; the steps whose names end in `_by` take further options, in which, unlike in
a written definition, a starting value of null is the value nil.
-/

namespace EventNet

/-- A state with the options of a step. -/
def StateDecl.withOptions (s : StateDecl) (options : Json) : StateDecl :=
  let s := match options.field? "initial" with
    | some v => { s with initial := some (Value.ofJson v) }
    | none => s
  match options.field? "exported" with
  | some (.bool true) => { s with exported := true }
  | _ => s

/-- A declared name of a binding: the name and its type. -/
def BindingDecl.ofPair? : Json → Option BindingDecl
  | .arr [.str name, .str type] => some ⟨name, some type⟩
  | _ => none

/-- An action by its parts. -/
def Action.ofParts? (j : Json) : Option Action := do
  let r ← j.record? ["id", "guard", "bindings", "event_type"]
  let id ← r.required "id" Json.str?
  let guard ← r.nullable "guard" Json.str?
  let bindings ← r.nullable "bindings" (Json.listOf? BindingDecl.ofPair?)
  let eventType ← r.nullable "event_type" Json.str?
  some ⟨id, guard, bindings.getD [], eventType⟩

/-- An arc by its parts. -/
def Arc.ofParts? (j : Json) : Option Arc := do
  let r ← j.record? ["source", "target", "weight", "keys", "value", "inhibitor"]
  let source ← r.required "source" Json.str?
  let target ← r.required "target" Json.str?
  let weight ← r.nullable "weight" Json.int64?
  let keys ← r.nullable "keys" (Json.listOf? Json.str?)
  let value ← r.nullable "value" Json.str?
  let inhibitor ← r.nullable "inhibitor" Json.bool?
  some ⟨source, target, weight.getD 1, keys.getD [], value.getD defaultValueBinding,
    inhibitor.getD false⟩

namespace Definition

/-- Apply one step. -/
def step? (d : Definition) : Json → Option Definition
  | .arr [.str "version", .str v] => some { d with version := some v }
  | .arr [.str "token_state", .str id, n] => n.int64?.map fun n => d.addState (.token id n)
  | .arr [.str "data_state", .str id, .str type] => some (d.addState (.data id type))
  | .arr [.str "action", .str id] => some (d.addAction (.plain id))
  | .arr [.str "action_string", .str id] => some (d.addAction (.plain id))
  | .arr [.str "guarded_action", .str id, .str guard] => some (d.addAction (.guarded id guard))
  | .arr [.str "flow", .str source, .str target] => some (d.addArc (.flow source target))
  | .arr [.str "arc_pair", .str source, .str target] => some (d.addArc (.flow source target))
  | .arr [.str "inhibitor", .str source, .str target] => some (d.addArc (.inhibits source target))
  | .arr [.str "constraint", .str id, .str expr] => some (d.addConstraint ⟨id, expr⟩)
  | .arr [.str "arc", arc] => (Arc.ofJson? arc).map d.addArc
  | .arr [.str "state", state] => (StateDecl.ofJson? state).map d.addState
  | .arr (.str "state_by" :: .str "token" :: .str id :: n :: options) =>
    n.int64?.map fun n => d.addState ((StateDecl.token id n).withOptions (options.headD .null))
  | .arr (.str "state_by" :: .str "data" :: .str id :: .str type :: options) =>
    some (d.addState ((StateDecl.data id type).withOptions (options.headD .null)))
  | .arr [.str "action_by", parts] => (Action.ofParts? parts).map d.addAction
  | .arr [.str "arc_by", parts] => (Arc.ofParts? parts).map d.addArc
  | _ => none

/-- The definition of a name and some steps. -/
def ofSteps? (name : String) (steps : Json) : Option Definition :=
  match steps with
  | .arr steps => steps.foldlM step? (.empty name)
  | _ => none

end Definition

end EventNet
