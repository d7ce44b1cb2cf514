import EventNet.Store.Database
import EventNet.Store.Memory

/-!
Event stores of either kind, and the calls that every store answers.

The two kinds answer alike: they check the version a writer expects, number the events of a batch and
refuse every call once they are closed.  They differ in what they notice besides, such as identities
that are taken or rows that cannot be read.
-/

namespace EventNet

/-- A store in memory, or a connection with the database behind it. -/
inductive Store where
  | memory (s : MemoryStore)
  | database (c : Connection) (db : Database)

namespace Store

/-- The name of the kind of store. -/
def name : Store → String
  | .memory _ => MemoryStore.name
  | .database .. => Connection.name

/-- A database store after a call that took time. -/
def waited (c : Connection) (db : Database) : Store :=
  .database c.settle db

/-- Append a batch to a stream that is expected to have a version; answers the new version. -/
def append (s : Store) (stream : String) (expected : Int) (events : List Event) :
    Traced (Except Fault Int × Store) :=
  match s with
  | .memory m => do
    let (r, m) ← m.append stream expected events
    pure (r, .memory m)
  | .database c db => do
    let (r, c, db) ← c.append db stream expected events
    pure (r, .database c db)

/-- Ask without changing anything. -/
def ask {α : Type} (s : Store) (memory : MemoryStore → Traced (Except Fault α))
    (database : Connection → Database → Traced (Except Fault α)) :
    Traced (Except Fault α × Store) :=
  match s with
  | .memory m => do
    let r ← memory m
    pure (r, .memory m)
  | .database c db => do
    let r ← database c db
    pure (r, waited c db)

/-- The events of a stream from a version on. -/
def read (s : Store) (stream : String) (start : Int) :
    Traced (Except Fault (List Event) × Store) :=
  s.ask (·.read stream start) (·.read · stream start)

/-- The events of all streams that pass a filter, in the order of their appending. -/
def readAll (s : Store) (f : EventFilter) : Traced (Except Fault (List Event) × Store) :=
  s.ask (·.readAll f) (·.readAll · f)

/-- The version of a stream. -/
def streamVersion (s : Store) (stream : String) : Traced (Except Fault Int × Store) :=
  s.ask (·.streamVersion stream) (·.streamVersion · stream)

/-- Subscribe to the events appended from now on. -/
def subscribe (s : Store) (filter : EventFilter) (token : String) (cancelled : Bool) :
    Traced (Except Fault Nat × Store) :=
  match s with
  | .memory m => do
    let (r, m) ← m.subscribe filter token cancelled
    pure (r, .memory m)
  | .database c db => do
    let (r, c) ← c.subscribe filter token cancelled
    pure (r, .database c db)

/-- Save a state in place of the one saved before. -/
def saveSnapshot (s : Store) (snapshot : StateSnapshot) : Traced (Except Fault Unit × Store) :=
  match s with
  | .memory m => do
    let (r, m) ← m.saveSnapshot snapshot
    pure (r, .memory m)
  | .database c db => do
    let (r, db) ← c.saveSnapshot db snapshot
    pure (r, waited c db)

/-- The saved state of a stream. -/
def loadSnapshot (s : Store) (stream : String) :
    Traced (Except Fault (Option StateSnapshot) × Store) :=
  s.ask (·.loadSnapshot stream) (·.loadSnapshot · stream)

/-- Delete the saved state of a stream; answers whether there was one. -/
def deleteSnapshot (s : Store) (stream : String) : Traced (Except Fault Bool × Store) :=
  match s with
  | .memory m => do
    let (r, m) ← m.deleteSnapshot stream
    pure (r, .memory m)
  | .database c db => do
    let (r, db) ← c.deleteSnapshot db stream
    pure (r, waited c db)

/-- Close the store; a second time changes nothing. -/
def close (s : Store) : Traced Store :=
  match s with
  | .memory m => do
    let m ← m.close
    pure (.memory m)
  | .database c db => do
    let c ← c.close
    pure (.database c db)

/-- The subscriptions of the store. -/
def hub : Store → Hub
  | .memory m => m.hub
  | .database c _ => c.hub

/-- Put other subscriptions in place. -/
def withHub (s : Store) (hub : Hub) : Store :=
  match s with
  | .memory m => .memory { m with hub }
  | .database c db => .database { c with hub } db

/-- The database behind the store. -/
def database? : Store → Option Database
  | .memory _ => none
  | .database _ db => some db

/-- Put the state of the database in place that another connection has left. -/
def withDatabase (s : Store) (db : Database) : Store :=
  match s with
  | .memory m => .memory m
  | .database c _ => .database c db

end Store

end EventNet
