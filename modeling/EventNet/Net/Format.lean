import EventNet.Json.Reader
import EventNet.Net.Definition

/-!
Definitions as JSON.

Absent options and empty lists of keys and bindings are left out on writing; on reading, all but the
ids and the names have defaults.  A starting value may be any document that is nested no deeper than
its place in a readable definition allows.
-/

namespace EventNet

namespace StateKind

/-- The word of a kind of state. -/
def word : StateKind → String
  | token => "token"
  | data => "data"

/-- Read a kind of state. -/
def ofJson? : Json → Option StateKind :=
  Json.oneOf? [("token", token), ("data", data)]

end StateKind

namespace StateDecl

/-- How deep a starting value may be nested: three levels lie around it. -/
def initialNesting : Nat := Json.maxNesting - 3

/-- Read a starting value. -/
def initialOfJson? (j : Json) : Option Value :=
  if j.fits initialNesting then Value.ofJson? j else none

/-- Read a state. -/
def ofJson? (j : Json) : Option StateDecl := do
  let r ← j.record? ["id", "kind", "initial", "type", "exported"]
  let id ← r.required "id" Json.str?
  let kind ← r.withDefault "kind" .token StateKind.ofJson?
  let initial ← r.nullable "initial" initialOfJson?
  let type ← r.nullable "type" Json.str?
  let exported ← r.withDefault "exported" false Json.bool?
  some ⟨id, kind, initial, type, exported⟩

/-- Write a state. -/
def toJson (s : StateDecl) : Json :=
  .object
    [("id", some (.str s.id)), ("kind", some (.str s.kind.word)),
     ("initial", s.initial.map Value.toJson), ("type", s.type.map .str),
     ("exported", some (.bool s.exported))]

end StateDecl

namespace BindingDecl

/-- Read a declared binding. -/
def ofJson? (j : Json) : Option BindingDecl := do
  let r ← j.record? ["name", "type"]
  let name ← r.required "name" Json.str?
  let type ← r.nullable "type" Json.str?
  some ⟨name, type⟩

/-- Write a declared binding. -/
def toJson (b : BindingDecl) : Json :=
  .object [("name", some (.str b.name)), ("type", b.type.map .str)]

end BindingDecl

namespace Action

/-- Read an action. -/
def ofJson? (j : Json) : Option Action := do
  let r ← j.record? ["id", "guard", "bindings", "event_type"]
  let id ← r.required "id" Json.str?
  let guard ← r.nullable "guard" Json.str?
  let bindings ← r.withDefault "bindings" [] (Json.listOf? BindingDecl.ofJson?)
  let eventType ← r.nullable "event_type" Json.str?
  some ⟨id, guard, bindings, eventType⟩

/-- Write an action. -/
def toJson (a : Action) : Json :=
  .object
    [("id", some (.str a.id)), ("guard", a.guard.map .str),
     ("bindings",
      if a.bindings.isEmpty then none else some (.arr (a.bindings.map BindingDecl.toJson))),
     ("event_type", a.eventType.map .str)]

end Action

namespace Arc

/-- Read an arc. -/
def ofJson? (j : Json) : Option Arc := do
  let r ← j.record? ["source", "target", "weight", "keys", "value", "inhibitor"]
  let source ← r.required "source" Json.str?
  let target ← r.required "target" Json.str?
  let weight ← r.withDefault "weight" 1 Json.int64?
  let keys ← r.withDefault "keys" [] (Json.listOf? Json.str?)
  let value ← r.withDefault "value" defaultValueBinding Json.str?
  let inhibitor ← r.withDefault "inhibitor" false Json.bool?
  some ⟨source, target, weight, keys, value, inhibitor⟩

/-- Write an arc. -/
def toJson (a : Arc) : Json :=
  .object
    [("source", some (.str a.source)), ("target", some (.str a.target)),
     ("weight", some (.int a.weight)),
     ("keys", if a.keys.isEmpty then none else some (.arr (a.keys.map .str))),
     ("value", some (.str a.value)), ("inhibitor", some (.bool a.inhibitor))]

end Arc

namespace Constraint

/-- Read a constraint. -/
def ofJson? (j : Json) : Option Constraint := do
  let r ← j.record? ["id", "expr"]
  let id ← r.required "id" Json.str?
  let expr ← r.required "expr" Json.str?
  some ⟨id, expr⟩

/-- Write a constraint. -/
def toJson (c : Constraint) : Json :=
  .obj [("id", .str c.id), ("expr", .str c.expr)]

end Constraint

namespace Definition

/-- Read a definition. -/
def ofJson? (j : Json) : Option Definition := do
  let r ← j.record? ["name", "version", "states", "actions", "arcs", "constraints"]
  let name ← r.required "name" Json.str?
  let version ← r.nullable "version" Json.str?
  let states ← r.withDefault "states" [] (Json.listOf? StateDecl.ofJson?)
  let actions ← r.withDefault "actions" [] (Json.listOf? Action.ofJson?)
  let arcs ← r.withDefault "arcs" [] (Json.listOf? Arc.ofJson?)
  let constraints ← r.withDefault "constraints" [] (Json.listOf? Constraint.ofJson?)
  some ⟨name, version, states, actions, arcs, constraints⟩

/-- Write a definition. -/
def toJson (d : Definition) : Json :=
  .object
    [("name", some (.str d.name)), ("version", d.version.map .str),
     ("states", some (.arr (d.states.map StateDecl.toJson))),
     ("actions", some (.arr (d.actions.map Action.toJson))),
     ("arcs", some (.arr (d.arcs.map Arc.toJson))),
     ("constraints", some (.arr (d.constraints.map Constraint.toJson)))]

/-- Read the text of a definition. -/
def ofText? (text : String) : Option Definition :=
  (Json.read? text).bind ofJson?

end Definition

end EventNet
