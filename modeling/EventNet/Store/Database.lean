import EventNet.Store.Batch
import EventNet.Store.Hub
import EventNet.Store.Report

/-!
An event store on a database.

Several connections can share one database.  Each has its own subscriptions, which are told of the
appends made through this connection, and each is closed by itself.  A call fails when its connection
is closed, when the pool behind the connection is closed, and when the database has no tables.  Every
call to the database takes time, in which cancelled tokens take effect.
-/

namespace EventNet

/-- A database, which may lack its tables. -/
structure Database where
  tables : Option Tables

namespace Database

/-- A database with empty tables. -/
def new : Database :=
  ⟨some .empty⟩

/-- A database from which the tables were removed. -/
def bare : Database :=
  ⟨none⟩

/-- Make the tables that are missing. -/
def initialized (db : Database) : Database :=
  ⟨some (db.tables.getD .empty)⟩

/-- Change the tables, if there are any. -/
def update (db : Database) (f : Tables → Tables) : Database :=
  ⟨db.tables.map f⟩

end Database

/-- One way into a database. -/
structure Connection where
  hub : Hub
  closed : Bool
  /-- Whether the pool of the connection was closed. -/
  poolClosed : Bool

namespace Connection

/-- A new connection. -/
def new (buffer : Nat) : Connection :=
  ⟨.new buffer, false, false⟩

/-- The name of the kind of store. -/
def name : String := "sqlite"

/-- The tables as far as they can be reached, whether or not the connection is closed. -/
def reach (c : Connection) (db : Database) : Except Fault Tables :=
  if c.poolClosed then .error .unreachable
  else
    match db.tables with
    | none => .error .database
    | some t => .ok t

/-- The tables an open connection reaches. -/
def tables (c : Connection) (db : Database) : Except Fault Tables :=
  if c.closed then .error .storeClosed else c.reach db

/-- Let cancelled tokens take effect. -/
def settle (c : Connection) : Connection :=
  { c with hub := c.hub.settle }

/-- Ask the tables something. -/
def ask {α : Type} (c : Connection) (db : Database) (question : Tables → Except Fault α) :
    Traced (Except Fault α) :=
  match (c.tables db).bind question with
  | .ok a => .silent (.ok a)
  | .error f => f.raise

/-- What an append makes of the tables: the new version, the tables and the events as stored. -/
def appended (t : Tables) (stream : String) (expected : Int) (events : List Event) :
    Except Fault (Int × Tables × List Event) :=
  let current := t.currentVersion stream
  if current ≠ expected then .error (.conflict stream expected current)
  else if events.isEmpty then .ok (current, t, [])
  else
    match Batch.stamp stream expected events with
    | .error f => .error f
    | .ok stamped =>
      match t.insertAll stamped with
      | .error .type => .error .database
      | .error .duplicate => .error (.conflict stream expected current)
      | .ok t => .ok (expected + stamped.length, t, stamped)

/-- Append a batch to a stream that is expected to have a version; answers the new version. -/
def append (c : Connection) (db : Database) (stream : String) (expected : Int)
    (events : List Event) : Traced (Except Fault Int × Connection × Database) :=
  match (c.tables db).bind fun t => appended t stream expected events with
  | .error f => f.refuse (c.settle, db)
  | .ok (version, t, stamped) =>
    let c := c.settle
    if stamped.isEmpty then .silent (.ok version, c, db)
    else do
      Traced.emit (.count .eventsAppended [("backend", name)] stamped.length)
      Traced.log .debug "events appended"
      let hub ← c.hub.publish stamped
      pure (.ok version, { c with hub }, ⟨some t⟩)

/-- The events of a stream from a version on. -/
def read (c : Connection) (db : Database) (stream : String) (start : Int) :
    Traced (Except Fault (List Event)) :=
  c.ask db (·.read stream start)

/-- The events of all streams that pass a filter, in the order of their appending. -/
def readAll (c : Connection) (db : Database) (f : EventFilter) :
    Traced (Except Fault (List Event)) :=
  c.ask db (·.readAll f)

/-- The version of a stream. -/
def streamVersion (c : Connection) (db : Database) (stream : String) : Traced (Except Fault Int) :=
  c.ask db fun t => .ok (t.currentVersion stream)

/-- Subscribe to the events appended through this connection from now on. -/
def subscribe (c : Connection) (filter : EventFilter) (token : String) (cancelled : Bool) :
    Traced (Except Fault Nat × Connection) :=
  if c.closed then Fault.storeClosed.refuse c
  else do
    let (id, hub) ← c.hub.subscribe filter token cancelled
    pure (.ok id, { c with hub })

/-- Save a state in place of the one saved before. -/
def saveSnapshot (c : Connection) (db : Database) (snapshot : StateSnapshot) :
    Traced (Except Fault Unit × Database) :=
  match c.tables db with
  | .error f => f.refuse db
  | .ok t => .silent (.ok (), ⟨some (t.saveSnapshot snapshot)⟩)

/-- The saved state of a stream. -/
def loadSnapshot (c : Connection) (db : Database) (stream : String) :
    Traced (Except Fault (Option StateSnapshot)) :=
  c.ask db (·.loadSnapshot stream)

/-- Delete the saved state of a stream; answers whether there was one. -/
def deleteSnapshot (c : Connection) (db : Database) (stream : String) :
    Traced (Except Fault Bool × Database) :=
  match c.tables db with
  | .error f => f.refuse db
  | .ok t =>
    .silent (.ok (t.snapshots.contains stream),
      ⟨some { t with snapshots := t.snapshots.erase stream }⟩)

/-- A page of streams. -/
def instances (c : Connection) (db : Database) (page perPage : Nat) :
    Traced (Except Fault InstancePage) :=
  c.ask db (·.instances page perPage)

/-- Totals over all events. -/
def stats (c : Connection) (db : Database) : Traced (Except Fault StoreStats) :=
  c.ask db Tables.stats

/-- Make the tables that are missing. -/
def prepare (c : Connection) (db : Database) : Traced (Except Fault Unit × Database) :=
  if c.poolClosed then Fault.unreachable.refuse db else .silent (.ok (), db.initialized)

/-- Close the pool, but not the connection. -/
def closePool (c : Connection) : Connection :=
  { c with poolClosed := true }

/-- Close the connection; a second time changes nothing. -/
def close (c : Connection) : Traced Connection :=
  if c.closed then .silent c
  else ⟨{ c.closePool with closed := true, hub := c.hub.closeAll },
    [.log .debug "sqlite event store closed"]⟩

/-- The form shown for inspection. -/
def inspect (c : Connection) : String :=
  "SqliteEventStore \x7b pool_size: " ++ (if c.poolClosed then "0" else "1") ++ ", closed: " ++
    Value.boolText c.closed ++ " \x7d"

end Connection

end EventNet
