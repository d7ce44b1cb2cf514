import EventNet.Event.Identity
import EventNet.Json.Shape
import EventNet.Time.Instant

/-!
Events, filters over events, and saved states.

The events of a stream are numbered from zero; a stream without events, and an event outside any
stream, has version -1.  Payloads are JSON documents and keep the form they were given in.
-/

namespace EventNet

/-- The version of a stream without events. -/
def noStream : Int := -1

/-- Who or what caused an event. -/
structure Metadata where
  correlationId : Option String
  causationId : Option String
  actorId : Option String
  context : Json
  deriving Repr

/-- A recorded fact. -/
structure Event where
  id : EventId
  stream : String
  type : String
  version : Int
  timestamp : Instant
  data : Json
  metadata : Option Metadata
  deriving Repr

/-- What makes an event new: an identity that no other event has, and the time it arises. -/
structure Stamp where
  id : EventId
  time : Instant
  deriving DecidableEq, Repr

/-- A condition on events.  Every part that is given has to hold. -/
structure EventFilter where
  stream : Option String
  /-- The types wanted; none means all. -/
  types : List String
  fromVersion : Option Int
  toVersion : Option Int
  fromTime : Option Instant
  toTime : Option Instant
  /-- How many events are wanted. -/
  limit : Option Nat
  deriving DecidableEq, Repr

/-- The state of an aggregate up to a version, saved. -/
structure StateSnapshot where
  stream : String
  version : Int
  state : Json
  createdAt : Instant
  deriving Repr

/-- Read a time. -/
def instantOfJson? (j : Json) : Option Instant :=
  j.str?.bind Instant.parse?

/-- Read an identity. -/
def identityOfJson? (j : Json) : Option EventId :=
  j.str?.bind EventId.parse?

namespace Metadata

/-- No metadata. -/
def empty : Metadata :=
  ⟨none, none, none, .null⟩

/-- Write metadata; what is not known is left out. -/
def toJson (m : Metadata) : Json :=
  .object
    [("correlation_id", m.correlationId.map .str), ("causation_id", m.causationId.map .str),
     ("actor_id", m.actorId.map .str),
     ("context", match m.context with
       | .null => none
       | j => some j)]

/-- Read metadata. -/
def ofJson? (j : Json) : Option Metadata := do
  let r ← j.record? ["correlation_id", "causation_id", "actor_id", "context"]
  let correlationId ← r.nullable "correlation_id" Json.str?
  let causationId ← r.nullable "causation_id" Json.str?
  let actorId ← r.nullable "actor_id" Json.str?
  let context ← r.withDefault "context" .null fun j => some j.canonical
  some ⟨correlationId, causationId, actorId, context⟩

end Metadata

namespace Event

/-- A new event outside any stream. -/
def new (stamp : Stamp) (stream type : String) (data : Json) : Event :=
  ⟨stamp.id, stream, type, noStream, stamp.time, data, none⟩

/-- Write an event. -/
def toJson (e : Event) : Json :=
  .object
    [("id", some (.str e.id.text)), ("stream_id", some (.str e.stream)),
     ("type", some (.str e.type)), ("version", some (.int e.version)),
     ("timestamp", some (.str e.timestamp.text)), ("data", some e.data),
     ("metadata", e.metadata.map Metadata.toJson)]

/-- Read an event. -/
def ofJson? (j : Json) : Option Event := do
  let r ← j.record? ["id", "stream_id", "type", "version", "timestamp", "data", "metadata"]
  let id ← r.required "id" identityOfJson?
  let stream ← r.required "stream_id" Json.str?
  let type ← r.required "type" Json.str?
  let version ← r.required "version" Json.int64?
  let timestamp ← r.required "timestamp" instantOfJson?
  let data ← r.withDefault "data" .null fun j => some j.canonical
  let metadata ← r.nullable "metadata" Metadata.ofJson?
  some ⟨id, stream, type, version, timestamp, data, metadata⟩

end Event

namespace EventFilter

/-- The filter that every event passes. -/
def all : EventFilter :=
  ⟨none, [], none, none, none, none, none⟩

/-- Whether an event passes, the limit left aside. -/
def passes (f : EventFilter) (e : Event) : Bool :=
  f.stream.all (· == e.stream) &&
  (f.types.isEmpty || f.types.contains e.type) &&
  f.fromVersion.all (· ≤ e.version) &&
  f.toVersion.all (e.version ≤ ·) &&
  f.fromTime.all (·.le e.timestamp) &&
  f.toTime.all (e.timestamp.le ·)

/-- The first events up to a limit. -/
def cut (f : EventFilter) (events : List Event) : List Event :=
  match f.limit with
  | none => events
  | some n => events.take n

/-- Write a filter; what it leaves open is left out. -/
def toJson (f : EventFilter) : Json :=
  .object
    [("stream_id", f.stream.map .str),
     ("event_types", if f.types.isEmpty then none else some (.arr (f.types.map .str))),
     ("from_version", f.fromVersion.map .int), ("to_version", f.toVersion.map .int),
     ("from_time", f.fromTime.map fun t => .str t.text),
     ("to_time", f.toTime.map fun t => .str t.text), ("limit", f.limit.map fun n => .int n)]

/-- Read a filter. -/
def ofJson? (j : Json) : Option EventFilter := do
  let r ← j.record?
    ["stream_id", "event_types", "from_version", "to_version", "from_time", "to_time", "limit"]
  let stream ← r.nullable "stream_id" Json.str?
  let types ← r.withDefault "event_types" [] (Json.listOf? Json.str?)
  let fromVersion ← r.nullable "from_version" Json.int64?
  let toVersion ← r.nullable "to_version" Json.int64?
  let fromTime ← r.nullable "from_time" instantOfJson?
  let toTime ← r.nullable "to_time" instantOfJson?
  let limit ← r.nullable "limit" Json.uint64?
  some ⟨stream, types, fromVersion, toVersion, fromTime, toTime, limit⟩

end EventFilter

namespace StateSnapshot

/-- A state saved at some time. -/
def new (time : Instant) (stream : String) (version : Int) (state : Json) : StateSnapshot :=
  ⟨stream, version, state, time.toMicrosecond⟩

/-- Write a saved state. -/
def toJson (s : StateSnapshot) : Json :=
  .obj [("stream_id", .str s.stream), ("version", .int s.version), ("state", s.state),
        ("created_at", .str s.createdAt.text)]

end StateSnapshot

end EventNet
