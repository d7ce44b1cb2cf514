import EventNet.Store.Batch
import EventNet.Store.Hub
import EventNet.Store.Log

/-!
An event store in memory.

The log holds the events of all streams in the order of their appending, with an index by stream.  The
events of a stream are numbered from zero without gaps, so the version of a stream is one less than the
number of its events.  A batch is appended as a whole or not at all, and only if its writer knows the
version of the stream.
-/

namespace EventNet

/-- A store that lives as long as its process. -/
structure MemoryStore where
  log : Log
  /-- Saved states by stream. -/
  snapshots : Dict StateSnapshot
  hub : Hub
  closed : Bool

namespace MemoryStore

/-- An empty store. -/
def new (buffer : Nat) : MemoryStore :=
  ⟨.empty, [], .new buffer, false⟩

/-- The name of the kind of store. -/
def name : String := "memory"

/-- Answer a call, unless the store is closed. -/
def whenOpen {α : Type} (s : MemoryStore) (answer : α) : Traced (Except Fault α) :=
  if s.closed then Fault.storeClosed.raise else .silent (.ok answer)

/-- Append a batch to a stream that is expected to have a version; answers the new version. -/
def append (s : MemoryStore) (stream : String) (expected : Int) (events : List Event) :
    Traced (Except Fault Int × MemoryStore) :=
  if s.closed then Fault.storeClosed.refuse s
  else
    let current := s.log.version stream
    if current ≠ expected then (Fault.conflict stream expected current).refuse s
    else if events.isEmpty then .silent (.ok current, s)
    else
      match h : Batch.stamp stream expected events with
      | .error f => f.refuse s
      | .ok stamped => do
        let log := s.log.extend stream stamped (Batch.stream_of_stamp h)
        let hub ← s.hub.publish stamped
        Traced.emit (.count .eventsAppended [("backend", name)] stamped.length)
        Traced.log .debug "events appended"
        pure (.ok (log.version stream), { s with log, hub })

/-- The events of a stream from a version on. -/
def read (s : MemoryStore) (stream : String) (start : Int) : Traced (Except Fault (List Event)) :=
  s.whenOpen (s.log.read stream start.toNat)

/-- The events of all streams that pass a filter, in the order of their appending. -/
def readAll (s : MemoryStore) (f : EventFilter) : Traced (Except Fault (List Event)) :=
  s.whenOpen (f.cut (s.log.events.filter f.passes))

/-- The version of a stream. -/
def streamVersion (s : MemoryStore) (stream : String) : Traced (Except Fault Int) :=
  s.whenOpen (s.log.version stream)

/-- Subscribe to the events appended from now on. -/
def subscribe (s : MemoryStore) (filter : EventFilter) (token : String) (cancelled : Bool) :
    Traced (Except Fault Nat × MemoryStore) :=
  if s.closed then Fault.storeClosed.refuse s
  else do
    let (id, hub) ← s.hub.subscribe filter token cancelled
    pure (.ok id, { s with hub })

/-- Save a state in place of the one saved before. -/
def saveSnapshot (s : MemoryStore) (snapshot : StateSnapshot) :
    Traced (Except Fault Unit × MemoryStore) :=
  if s.closed then Fault.storeClosed.refuse s
  else .silent (.ok (), { s with snapshots := s.snapshots.insert snapshot.stream snapshot })

/-- The saved state of a stream. -/
def loadSnapshot (s : MemoryStore) (stream : String) :
    Traced (Except Fault (Option StateSnapshot)) :=
  s.whenOpen (s.snapshots.get? stream)

/-- Delete the saved state of a stream; answers whether there was one. -/
def deleteSnapshot (s : MemoryStore) (stream : String) :
    Traced (Except Fault Bool × MemoryStore) :=
  if s.closed then Fault.storeClosed.refuse s
  else
    .silent (.ok (s.snapshots.contains stream),
      { s with snapshots := s.snapshots.erase stream })

/-- Close the store; a second time changes nothing. -/
def close (s : MemoryStore) : Traced MemoryStore :=
  if s.closed then .silent s
  else ⟨{ s with closed := true, hub := s.hub.closeAll },
    [.log .debug "in-memory event store closed"]⟩

end MemoryStore

end EventNet
