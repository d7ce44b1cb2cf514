import EventNet.Event.Basic
import EventNet.Fault.Basic
import EventNet.Json.Reader
import EventNet.Json.Writer

/-!
The tables of an event database.

A row keeps identities, payloads and metadata as texts and times as microseconds since 1970, and it
may have been changed by others, so reading a row back can fail.  Event rows are in the order of their
insertion.  Inserting refuses an identity that some row has and a version that its stream has; since
versions are given out one after the other, the rows of a stream are in version order.
-/

namespace EventNet

/-- A stored event. -/
structure EventRow where
  id : String
  stream : String
  type : String
  version : Int
  time : Int
  data : String
  metadata : Option String
  deriving DecidableEq, Repr

/-- A stored state. -/
structure SnapshotRow where
  version : Int
  state : String
  createdAt : Int
  deriving DecidableEq, Repr

/-- Read a time. -/
def instantOfMicros (n : Int) : Except Fault Instant :=
  match Instant.ofMicros? n with
  | some t => .ok t
  | none => .error (.unreadable .timestamp)

namespace EventRow

/-- The row of an event. -/
def ofEvent (e : Event) : EventRow :=
  ⟨e.id.text, e.stream, e.type, e.version, e.timestamp.micros, e.data.text,
    e.metadata.map fun m => m.toJson.text⟩

/-- How deep the context of metadata may be nested: one level lies around it. -/
def contextNesting : Nat := Json.maxNesting - 1

/-- Read the text of metadata. -/
def metadataOfText? (text : String) : Option Metadata := do
  let m ← (Json.read? text).bind Metadata.ofJson?
  if m.context.fits contextNesting then some m else none

/-- Read stored metadata. -/
def readMetadata : Option String → Except Fault (Option Metadata)
  | none => .ok none
  | some text =>
    match metadataOfText? text with
    | some m => .ok (some m)
    | none => .error (.unreadable .json)

/-- Read a row: identity, metadata, time and payload in this order. -/
def toEvent (r : EventRow) : Except Fault Event :=
  match EventId.parse? r.id with
  | none => .error (.unreadable .eventId)
  | some id =>
    match readMetadata r.metadata with
    | .error f => .error f
    | .ok metadata =>
      match instantOfMicros r.time with
      | .error f => .error f
      | .ok timestamp =>
        match Json.ofText? r.data with
        | none => .error (.unreadable .json)
        | some data =>
          .ok ⟨id, r.stream, r.type, r.version, timestamp, data.canonical, metadata⟩

/-- Read rows; the first that cannot be read makes all of them fail. -/
def toEvents : List EventRow → Except Fault (List Event)
  | [] => .ok []
  | r :: rest =>
    match r.toEvent with
    | .error f => .error f
    | .ok e => (toEvents rest).map (e :: ·)

/-- Whether a row passes a filter, the limit left aside.  Times are compared in microseconds. -/
def passes (f : EventFilter) (r : EventRow) : Bool :=
  f.stream.all (· == r.stream) &&
  (f.types.isEmpty || f.types.contains r.type) &&
  f.fromVersion.all (· ≤ r.version) &&
  f.toVersion.all (r.version ≤ ·) &&
  f.fromTime.all (·.micros ≤ r.time) &&
  f.toTime.all (r.time ≤ ·.micros)

end EventRow

namespace SnapshotRow

/-- The row of a saved state. -/
def ofSnapshot (s : StateSnapshot) : SnapshotRow :=
  ⟨s.version, s.state.text, s.createdAt.micros⟩

/-- Read the row of a stream: state and time in this order. -/
def toSnapshot (stream : String) (r : SnapshotRow) : Except Fault StateSnapshot :=
  match Json.ofText? r.state with
  | none => .error (.unreadable .json)
  | some state =>
    (instantOfMicros r.createdAt).map fun createdAt =>
      ⟨stream, r.version, state.canonical, createdAt⟩

end SnapshotRow

/-- The tables of a database. -/
structure Tables where
  /-- Events in the order of their insertion. -/
  events : List EventRow
  /-- Saved states by stream. -/
  snapshots : Dict SnapshotRow
  /-- Event types that the database refuses to insert. -/
  refusedTypes : List String

/-- Why an event is not inserted. -/
inductive InsertRefusal where
  | type
  /-- The identity, or the version in the stream, is taken. -/
  | duplicate
  deriving DecidableEq, Repr

namespace Tables

/-- Tables without rows. -/
def empty : Tables :=
  ⟨[], [], []⟩

/-- The rows of a stream in version order. -/
def streamRows (t : Tables) (stream : String) : List EventRow :=
  t.events.filter (·.stream == stream)

/-- The greatest version in a stream. -/
def currentVersion (t : Tables) (stream : String) : Int :=
  ((t.streamRows stream).map (·.version)).max?.getD noStream

/-- Insert one event. -/
def insert (t : Tables) (e : Event) : Except InsertRefusal Tables :=
  let row := EventRow.ofEvent e
  if t.refusedTypes.contains row.type then .error .type
  else if t.events.any fun r =>
      r.id == row.id || (r.stream == row.stream && r.version == row.version) then
    .error .duplicate
  else .ok { t with events := t.events ++ [row] }

/-- Insert events in order, all or none. -/
def insertAll (t : Tables) : List Event → Except InsertRefusal Tables
  | [] => .ok t
  | e :: rest =>
    match t.insert e with
    | .error r => .error r
    | .ok t => insertAll t rest

/-- The events of a stream from a version on. -/
def read (t : Tables) (stream : String) (start : Int) : Except Fault (List Event) :=
  EventRow.toEvents ((t.streamRows stream).filter fun r => max start 0 ≤ r.version)

/-- The rows of all streams that pass a filter, in the order of insertion, up to its limit. -/
def select (t : Tables) (f : EventFilter) : List EventRow :=
  let rows := t.events.filter (EventRow.passes f)
  match f.limit with
  | none => rows
  | some n => rows.take n

/-- The events of all streams that pass a filter, in the order of insertion. -/
def readAll (t : Tables) (f : EventFilter) : Except Fault (List Event) :=
  EventRow.toEvents (t.select f)

/-- Save a state in place of the one saved before. -/
def saveSnapshot (t : Tables) (s : StateSnapshot) : Tables :=
  { t with snapshots := t.snapshots.insert s.stream (.ofSnapshot s) }

/-- The saved state of a stream. -/
def loadSnapshot (t : Tables) (stream : String) : Except Fault (Option StateSnapshot) :=
  match t.snapshots.get? stream with
  | none => .ok none
  | some r => (r.toSnapshot stream).map some

/-- Change every event row of a stream. -/
def updateEvents (t : Tables) (stream : String) (f : EventRow → EventRow) : Tables :=
  { t with events := t.events.map fun r => if r.stream == stream then f r else r }

/-- Change the snapshot row of a stream. -/
def updateSnapshot (t : Tables) (stream : String) (f : SnapshotRow → SnapshotRow) : Tables :=
  { t with snapshots := t.snapshots.map fun (k, r) => if k == stream then (k, f r) else (k, r) }

end Tables

end EventNet
