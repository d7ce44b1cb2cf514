import EventNet.Event.Naming
import EventNet.Net.Firing
import EventNet.Settings.Basic
import EventNet.Store.Program

/-!
Instances: nets rebuilt from the events of one stream.

An instance starts at the start of its schema.  Catching up restores the saved state of the stream,
once, and then replays the events after the version reached.  An event is replayed as its action with
its payload as bindings; constraints are not checked then, since what happened stands, and an event
that cannot be replayed is passed over.
-/

namespace EventNet

/-- The net of one aggregate. -/
structure Instance where
  net : Net
  /-- The version of the last event replayed. -/
  version : Int
  /-- Whether a saved state was looked for. -/
  loaded : Bool

namespace Instance

/-- The instance of an aggregate of which nothing is known. -/
def fresh (schema : Schema) (evaluator : GuardEvaluator) (checksConstraints : Bool) : Instance :=
  ⟨{ Net.start schema (some evaluator) with checksConstraints }, noStream, false⟩

/-- Check constraints from now on, or do not. -/
def withCheck (i : Instance) (on : Bool) : Instance :=
  { i with net := { i.net with checksConstraints := on } }

/-- Put a marking in place. -/
def restore (i : Instance) (m : Marking) : Instance :=
  { i with net := { i.net with marking := m } }

/-- The signals of an event that is replayed. -/
def replaySignals (r : Except Fault Unit) : List Signal :=
  match r with
  | .ok () => Net.signals r
  | .error _ => Net.signals r ++
      [.count .replayFailures [] 1, .log .warn "event replay failed, skipping"]

/-- Replay one event. -/
def replay (types : EventTypes) (i : Instance) (e : Event) : Traced Instance :=
  let (r, net) := i.net.executeWith (types.action e.type) (Bindings.ofJson e.data)
  ⟨{ i with net, version := e.version }, replaySignals r⟩

/-- Replay events in order. -/
def replayAll (types : EventTypes) (i : Instance) : List Event → Traced Instance
  | [] => .silent i
  | e :: rest => (i.replay types e).andThen fun i => replayAll types i rest

/-- Look for a saved state, unless that was done before. -/
def loadSaved (stream : String) (i : Instance) : Program (Except Fault Unit × Instance) :=
  if i.loaded then pure (.ok (), i)
  else do
    match ← Program.loadSnapshot stream with
    | .error f => pure (.error f, i)
    | .ok none => pure (.ok (), { i with loaded := true })
    | .ok (some saved) =>
      match Marking.ofJson? saved.state with
      | some m =>
        Program.log .debug "restored from snapshot"
        pure (.ok (), { i.restore m with version := saved.version, loaded := true })
      | none =>
        Program.log .warn "unreadable snapshot ignored"
        pure (.ok (), { i with loaded := true })

/-- Replay the events after the version reached. -/
def replayTail (types : EventTypes) (checksConstraints : Bool) (stream : String) (i : Instance) :
    Program (Except Fault Unit × Instance) := do
  match ← Program.read stream (i.version + 1) with
  | .error f => pure (.error f, i)
  | .ok [] => pure (.ok (), i)
  | .ok events =>
    let i ← Program.ofTraced ((i.withCheck false).replayAll types events)
    Program.log .debug "aggregate caught up"
    pure (.ok (), i.withCheck checksConstraints)

/-- Bring an instance up to the end of its stream. -/
def sync (types : EventTypes) (checksConstraints : Bool) (stream : String) (i : Instance) :
    Program (Except Fault Unit × Instance) := do
  match ← i.loadSaved stream with
  | (.error f, i) => pure (.error f, i)
  | (.ok (), i) => i.replayTail types checksConstraints stream

end Instance

end EventNet
