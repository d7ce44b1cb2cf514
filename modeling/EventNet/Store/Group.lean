import EventNet.Store.Basic

/-!
Stores used side by side.

The database stores of a group share one database, so what one of them appends all of them read.  A
token of subscriptions is known by its name in the whole group: once it is cancelled, every
subscription under it is over, also one made later.  The subscriptions of a group are numbered in the
order of their making, whichever store they are on.
-/

namespace EventNet

/-- Several stores with what they share. -/
structure StoreGroup where
  stores : List Store
  database : Database
  /-- Of each subscription the position of its store and its identity there. -/
  subscriptions : List (Nat × Nat)
  /-- The tokens that were cancelled. -/
  cancelled : List String

namespace StoreGroup

/-- A group without stores, whose database has no tables yet. -/
def empty : StoreGroup :=
  ⟨[], .bare, [], []⟩

/-- A group of one store. -/
def single (s : Store) : StoreGroup :=
  ⟨[s], s.database?.getD .bare, [], []⟩

/-- The store at a position, with the state of the database that the group has reached. -/
def store? (g : StoreGroup) (i : Nat) : Option Store :=
  (g.stores[i]?).map (·.withDatabase g.database)

/-- Put a store back after it was used. -/
def put (g : StoreGroup) (i : Nat) (s : Store) : StoreGroup :=
  { g with stores := g.stores.set i s, database := s.database?.getD g.database }

/-- Open one more connection to the database; answers its position. -/
def connect (g : StoreGroup) (buffer : Nat) : Traced (Nat × StoreGroup) :=
  let database := g.database.initialized
  ⟨(g.stores.length,
    { g with database, stores := g.stores ++ [.database (.new buffer) database] }),
   [.log .info "sqlite event store ready"]⟩

/-- Subscribe on the store at a position; answers the number of the subscription in the group and its
identity on the store. -/
def subscribe (g : StoreGroup) (i : Nat) (s : Store) (filter : EventFilter) (token : String) :
    Traced (Except Fault (Nat × Nat) × StoreGroup) := do
  let (r, s) ← s.subscribe filter token (g.cancelled.contains token)
  let g := g.put i s
  match r with
  | .error f => pure (.error f, g)
  | .ok id =>
    pure (.ok (g.subscriptions.length, id), { g with subscriptions := g.subscriptions ++ [(i, id)] })

/-- Cancel a token and let that take effect. -/
def cancel (g : StoreGroup) (token : String) : StoreGroup :=
  { g with
    stores := g.stores.map fun s => s.withHub (s.hub.cancel token).settle
    cancelled := token :: g.cancelled }

end StoreGroup

end EventNet
