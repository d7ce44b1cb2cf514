import EventNet.Store.Basic
import EventNet.Store.Program

/-!
A store as a host of programs.

The host gives out stamps one after the other, and it can be told to refuse some of the next calls, so
that programs can be seen to cope with a store that fails them.
-/

namespace EventNet

/-- A store with its stamps and refusals. -/
structure Client where
  store : Store
  /-- How many stamps were given out. -/
  stamps : Nat
  /-- How many of the next appends end in a conflict. -/
  refusedAppends : Nat
  /-- How many of the next savings fail. -/
  refusedSaves : Nat

namespace Client

/-- A client of a store that refuses nothing. -/
def new (store : Store) : Client :=
  ⟨store, 0, 0, 0⟩

/-- Work on a store. -/
abbrev Session := StateT Client Traced

/-- The time of the first stamp. -/
def firstTime : Int := 1700000000

/-- The stamp of a number: no two numbers have the same identity. -/
def stampOf (n : Nat) : Stamp :=
  ⟨⟨Nat.pow 2 127 + n⟩, ⟨firstTime + n, 0⟩⟩

/-- Take the next stamp. -/
def takeStamp : Session Stamp := fun c =>
  .silent (stampOf c.stamps, { c with stamps := c.stamps + 1 })

/-- Call the store. -/
def withStore {α : Type} (f : Store → Traced (α × Store)) : Session α := fun c =>
  (f c.store).andThen fun (a, store) => .silent (a, { c with store })

/-- Append, unless that is to be refused. -/
def append (stream : String) (expected : Int) (events : List Event) :
    Session (Except Fault Int) := fun c =>
  if 0 < c.refusedAppends then
    (Fault.conflict stream expected (expected + 1)).refuse
      { c with refusedAppends := c.refusedAppends - 1 }
  else withStore (·.append stream expected events) c

/-- Save a state, unless that is to be refused. -/
def saveSnapshot (snapshot : StateSnapshot) : Session (Except Fault Unit) := fun c =>
  if 0 < c.refusedSaves then
    (Fault.internal "snapshot refused").refuse { c with refusedSaves := c.refusedSaves - 1 }
  else withStore (·.saveSnapshot snapshot) c

/-- Close the store. -/
def close : Session Unit :=
  withStore fun s => s.close.andThen fun s => .silent ((), s)

/-- Answer a call. -/
def answer : (c : StoreCall) → Session c.Answer
  | .loadSnapshot stream => withStore (·.loadSnapshot stream)
  | .read stream start => withStore (·.read stream start)
  | .append stream expected events => append stream expected events
  | .saveSnapshot snapshot => saveSnapshot snapshot

/-- Answers by the store of a session. -/
def host : Host Session where
  call := answer
  stamp := takeStamp
  report signals := fun c => ⟨((), c), signals⟩

/-- Run a program. -/
def run {α : Type} (p : Program α) : Session α :=
  p.run host

end Client

end EventNet
