import EventNet.Proofs.Engine.Replay
import EventNet.Proofs.Store.Backends

/-!
Several engines on one store.

A `System` is a store with workers on it, each of which has an engine and runs one command at a time.
A command is a program, so it can be stopped before each of its calls: a `Move` starts a command, takes
one step of a running one, has its next call refused, or appends events on behalf of somebody else.  A
list of moves is an interleaving; every interleaving of the calls of all commands is such a list.

Of a command that runs, and of one that has finished, a `Trace` tells what its calls did.  It is read
off the store and takes no part in what happens.
-/

namespace EventNet

/-! ### Calls -/

namespace Store

/-- Answer a call of a program. -/
def answer (s : Store) : (c : StoreCall) → c.Answer × Store
  | .loadSnapshot stream => (s.loadSnapshot stream).value
  | .read stream start => (s.read stream start).value
  | .append stream expected events => (s.append stream expected events).value
  | .saveSnapshot snapshot => (s.saveSnapshot snapshot).value

/-- The events of all streams, as the store reads them. -/
def log (s : Store) : List Event :=
  match (s.readAll .all).value.1 with
  | .ok events => events
  | .error _ => []

/-- The saved state of a stream, as the store reads it. -/
def saved? (s : Store) (id : String) : Option StateSnapshot :=
  match (s.loadSnapshot id).value.1 with
  | .ok saved => saved
  | .error _ => none

end Store

namespace StoreCall

/-- The answer that a call is refused. -/
def refusal (f : Fault) : (c : StoreCall) → c.Answer
  | .loadSnapshot _ => .error f
  | .read .. => .error f
  | .append .. => .error f
  | .saveSnapshot _ => .error f

/-- Whether a call is refused. -/
def refuses : (c : StoreCall) → c.Answer → Bool
  | .loadSnapshot _, .ok _ => false
  | .read .., .ok _ => false
  | .append .., .ok _ => false
  | .saveSnapshot _, .ok _ => false
  | _, _ => true

end StoreCall

/-! ### Commands -/

/-- What an engine can be asked for. -/
inductive Command where
  | execute (id action : String) (bindings : Bindings) (metadata : Option Metadata)
  | executeWithRetry (id action : String) (bindings : Bindings)
  | loadState (id : String)
  | state (id : String)
  | enabledActions (id : String)
  | evict (id : String)

/-- What a command answers. -/
inductive Outcome where
  | event (r : Except Fault Event)
  | state (r : Except Fault AggregateState)
  | actions (r : Except Fault (List String))
  | evicted (kept : Bool)

namespace Command

/-- The aggregate a command is about. -/
def aggregate : Command → String
  | .execute id .. => id
  | .executeWithRetry id .. => id
  | .loadState id => id
  | .state id => id
  | .enabledActions id => id
  | .evict id => id

/-- The bindings of a command. -/
def bindings : Command → Bindings
  | .execute _ _ b _ => b
  | .executeWithRetry _ _ b => b
  | _ => []

/-- The program of a command on an engine. -/
def program (e : Engine) : Command → Program (Outcome × Engine)
  | .execute id action b metadata => do
    let (r, e) ← e.execute id action b metadata
    pure (.event r, e)
  | .executeWithRetry id action b => do
    let (r, e) ← e.executeWithRetry id action b
    pure (.event r, e)
  | .loadState id => do
    let (r, e) ← e.loadState id
    pure (.state r, e)
  | .state id => do
    let (r, e) ← e.state id
    pure (.state r, e)
  | .enabledActions id => do
    let (r, e) ← e.enabledActions id
    pure (.actions r, e)
  | .evict id => pure (.evicted (e.evict id).1, (e.evict id).2)

end Command

/-! ### What the calls of a command did -/

/-- What the calls of a command did. -/
structure Trace where
  /-- The events that they added to the store. -/
  added : List Event
  /-- The events that the stream had when it was last read. -/
  seen : List Event
  /-- Whether a call was refused. -/
  refused : Bool

namespace Trace

/-- Nothing was called yet. -/
def start : Trace :=
  ⟨[], [], false⟩

/-- The trace after a call, given the events it added and those of each stream before it. -/
def after (t : Trace) (c : StoreCall) (answer : c.Answer) (added : List Event)
    (events : String → List Event) : Trace where
  added := t.added ++ added
  seen := match c with
    | .read stream _ => events stream
    | _ => t.seen
  refused := t.refused || c.refuses answer

end Trace

/-! ### Workers -/

/-- A command that runs. -/
structure Task where
  command : Command
  /-- What it has still to do. -/
  rest : Program (Outcome × Engine)
  trace : Trace

/-- A command that has finished. -/
structure Finished where
  command : Command
  outcome : Outcome
  trace : Trace

/-- An engine, as the last finished command left it, and the command it runs. -/
structure Worker where
  engine : Engine
  task : Option Task

/-- A store with workers on it. -/
structure System where
  store : Store
  workers : List Worker
  finished : List Finished

/-- What can happen next. -/
inductive Move where
  /-- A worker without a command begins one. -/
  | start (worker : Nat) (c : Command)
  /-- A worker takes one step; the stamp is what it gets if it asks for one. -/
  | advance (worker : Nat) (stamp : Stamp)
  /-- The call that a worker is about to make is refused. -/
  | refuse (worker : Nat) (f : Fault)
  /-- Somebody else appends events. -/
  | append (stream : String) (expected : Int) (batch : List Event)

namespace System

/-- A store with idle engines on it. -/
def idle (u : Setup) (store : Store) (engines : Nat) : System :=
  ⟨store, List.replicate engines ⟨(Engine.new u.schema u.evaluator u.settings).value, none⟩, []⟩

/-- Put a worker in place. -/
def put (s : System) (i : Nat) (w : Worker) : System :=
  { s with workers := s.workers.set i w }

/-- A worker begins a command. -/
def begin (s : System) (i : Nat) (w : Worker) (c : Command) : System :=
  s.put i { w with task := some ⟨c, c.program w.engine, .start⟩ }

/-- A worker goes on with its command. -/
def proceed (s : System) (i : Nat) (w : Worker) (t : Task) (stamp : Stamp) : System :=
  match t.rest with
  | .done (outcome, engine) =>
    { s.put i ⟨engine, none⟩ with finished := s.finished ++ [⟨t.command, outcome, t.trace⟩] }
  | .report _ next => s.put i { w with task := some { t with rest := next } }
  | .stamp next => s.put i { w with task := some { t with rest := next stamp } }
  | .call c next =>
    let r := s.store.answer c
    let trace := t.trace.after c r.1 (r.2.log.drop s.store.log.length) s.store.stream
    { s.put i { w with task := some ⟨t.command, next r.1, trace⟩ } with store := r.2 }

/-- The next call of a worker is refused; the store does not hear of it. -/
def fail (s : System) (i : Nat) (w : Worker) (t : Task) (f : Fault) : System :=
  match t.rest with
  | .call c next =>
    let trace := t.trace.after c (c.refusal f) [] s.store.stream
    s.put i { w with task := some ⟨t.command, next (c.refusal f), trace⟩ }
  | _ => s

/-- The worker at a place, if it runs no command. -/
def idle? (s : System) (i : Nat) : Option Worker :=
  (s.workers[i]?).filter (·.task.isNone)

/-- The worker at a place with the command it runs. -/
def busy? (s : System) (i : Nat) : Option (Worker × Task) :=
  (s.workers[i]?).bind fun w => w.task.map (w, ·)

/-- The system after a move.  A move that is not possible changes nothing. -/
def step (s : System) : Move → System
  | .start i c =>
    match s.idle? i with
    | some w => s.begin i w c
    | none => s
  | .advance i stamp =>
    match s.busy? i with
    | some (w, t) => s.proceed i w t stamp
    | none => s
  | .refuse i f =>
    match s.busy? i with
    | some (w, t) => s.fail i w t f
    | none => s
  | .append stream expected batch =>
    { s with store := (s.store.append stream expected batch).value.2 }

/-- The system after moves. -/
def run (s : System) (moves : List Move) : System :=
  moves.foldl step s

/-- An event that a command has added. -/
def Wrote (s : System) (e : Event) : Prop :=
  (∃ f ∈ s.finished, e ∈ f.trace.added) ∨
    ∃ w ∈ s.workers, ∃ t, w.task = some t ∧ e ∈ t.trace.added

end System

/-! ### Moves that lose nothing -/

/-- A call hands nothing to the store that does not come back as it was: events and saved states are
kept, and a state is saved in numbers that JSON has. -/
def StoreCall.Kept (u : Setup) (s : Store) : StoreCall → Prop
  | .append _ _ batch => ∀ e ∈ batch, s.Keeps e
  | .saveSnapshot x =>
    s.KeepsState x ∧ (u.fold ((s.stream x.stream).take (x.version + 1).toNat)).Finite
  | _ => True

namespace System

/-- A move loses nothing: bindings are finite and what comes to the store comes back. -/
def Spares (u : Setup) (s : System) : Move → Prop
  | .start _ c => c.bindings.Regular
  | .advance i _ =>
    match s.busy? i with
    | some (_, t) =>
      match t.rest with
      | .call c _ => c.Kept u s.store
      | _ => True
    | none => True
  | .refuse .. => True
  | .append _ _ batch => ∀ e ∈ batch, s.store.Keeps e

/-- None of the moves loses anything. -/
def Lossless (u : Setup) : System → List Move → Prop
  | _, [] => True
  | s, m :: rest => s.Spares u m ∧ (s.step m).Lossless u rest

end System

/-! ### Stores in memory -/

/-- A store in memory. -/
def Store.InMemory : Store → Prop
  | .memory _ => True
  | .database .. => False

theorem Store.InMemory.append {s : Store} (h : s.InMemory) (stream : String) (expected : Int)
    (batch : List Event) : (s.append stream expected batch).value.2.InMemory := by
  cases s with
  | memory m => exact trivial
  | database c db => exact h.elim

theorem Store.InMemory.answer {s : Store} (h : s.InMemory) (c : StoreCall) :
    (s.answer c).2.InMemory := by
  cases s with
  | memory m => cases c <;> exact trivial
  | database c db => exact h.elim

namespace System

variable {s : System}

theorem inMemory_step (h : s.store.InMemory) (m : Move) : (s.step m).store.InMemory := by
  cases m with
  | start i c =>
      simp only [step]
      split <;> exact h
  | advance i stamp =>
      simp only [step]
      split
      · unfold proceed
        split
        · exact h
        · exact h
        · exact h
        · exact h.answer _
      · exact h
  | refuse i f =>
      simp only [step]
      split
      · unfold fail
        split <;> exact h
      · exact h
  | append stream expected batch => exact h.append stream expected batch

/-- **Moves on a store in memory lose nothing as long as numbers stay finite**: those in bindings and
those in the states that the events lead to. -/
theorem lossless_of_finite {u : Setup} (hfinite : ∀ history, (u.fold history).Finite)
    (h : s.store.InMemory) {moves : List Move}
    (hstart : ∀ i c, .start i c ∈ moves → c.bindings.Regular) : s.Lossless u moves := by
  induction moves generalizing s with
  | nil => exact trivial
  | cons m rest ih =>
      refine ⟨?_, ih (inMemory_step h m) fun i c hc => hstart i c (List.mem_cons_of_mem _ hc)⟩
      have hkept : ∀ c : StoreCall, c.Kept u s.store := by
        intro c
        cases hs : s.store with
        | memory m =>
            cases c with
            | append stream expected batch => exact fun _ _ => trivial
            | saveSnapshot x => exact ⟨trivial, hfinite _⟩
            | _ => exact trivial
        | database c db =>
            rw [hs] at h
            exact h.elim
      cases m with
      | start i c => exact hstart i c List.mem_cons_self
      | advance i stamp =>
          simp only [Spares]
          split
          · split
            · exact hkept _
            · exact trivial
          · exact trivial
      | refuse i f => exact trivial
      | append stream expected batch => exact hkept (.append stream expected batch)

end System

end EventNet
