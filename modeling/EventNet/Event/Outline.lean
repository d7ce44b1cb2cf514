import EventNet.Event.Naming
import EventNet.Net.Format
import EventNet.Net.Marking

/-!
What a schema tells: its states as they start, its actions with their arcs and event types, and the
marking it starts with.
-/

namespace EventNet

/-- What is told about a state. -/
def StateDecl.outline (d : StateDecl) : Json :=
  .obj [("id", .str d.id), ("token", .bool d.isToken), ("data", .bool !d.isToken),
    ("map", .bool d.isMap), ("initial_tokens", .int d.initialTokens),
    ("initial_value", d.initialValue.toJson)]

namespace Schema

/-- What is told about an action: the states around it, its event type, and the action of that type. -/
def actionOutline (s : Schema) (types : EventTypes) (a : Action) : Json :=
  let type := types.eventType a.id
  .obj [("id", .str a.id), ("inputs", .arr ((s.inputs a.id).map fun arc => .str arc.source)),
    ("outputs", .arr ((s.outputs a.id).map fun arc => .str arc.target)), ("event_type", .str type),
    ("back", .str (types.action type))]

/-- What is told about a schema. -/
def outline (s : Schema) (types : EventTypes) : Json :=
  let marking := Marking.initial s
  let version := match s.definition.version with
    | some v => .str v
    | none => .null
  .obj [("name", .str s.name), ("version", version),
    ("states", .arr (s.states.map StateDecl.outline)),
    ("actions", .arr (s.actions.map (s.actionOutline types))),
    ("definition", s.definition.toJson), ("snapshot", marking.toJson),
    ("token_key", .str marking.tokenKey)]

end Schema

end EventNet
