import EventNet.Engine.Instance

/-!
Engines: commands on aggregates whose state is the replay of their events.

An engine keeps instances of aggregates that have events.  A command catches the instance up with its
stream, executes the action on it, and appends the event for the version reached; if the append is
refused, the change of the instance is taken back.  Another writer in between makes the append fail
with a conflict, and `executeWithRetry` then begins again.  From time to time the state of an
aggregate is saved; that such a saving fails does not matter to the command.
-/

namespace EventNet

/-- The state of an aggregate at some version. -/
structure AggregateState where
  aggregate : String
  version : Int
  marking : Marking
  deriving Repr

/-- Write the state of an aggregate. -/
def AggregateState.toJson (s : AggregateState) : Json :=
  .obj [("aggregate_id", .str s.aggregate), ("version", .int s.version),
    ("snapshot", s.marking.toJson)]

/-- An executor of the actions of one schema. -/
structure Engine where
  schema : Schema
  types : EventTypes
  evaluator : GuardEvaluator
  settings : EngineSettings
  /-- The instances kept, by aggregate. -/
  instances : Dict Instance

namespace Engine

/-- An engine that keeps nothing yet. -/
def new (schema : Schema) (evaluator : GuardEvaluator) (settings : EngineSettings) :
    Traced Engine :=
  (EventTypes.ofSchema schema).andThen fun types =>
    .silent ⟨schema, types, evaluator, settings, []⟩

/-- The number of instances kept. -/
def cached (e : Engine) : Nat :=
  e.instances.length

/-- Keep an instance. -/
def keep (e : Engine) (id : String) (i : Instance) : Engine :=
  { e with instances := e.instances.insert id i }

/-- Forget the instance of an aggregate. -/
def forget (e : Engine) (id : String) : Engine :=
  { e with instances := e.instances.erase id }

/-- Forget the instance of an aggregate; answers whether one was kept. -/
def evict (e : Engine) (id : String) : Bool × Engine :=
  (e.instances.contains id, e.forget id)

/-- The instance of an aggregate of which nothing is known. -/
def fresh (e : Engine) : Instance :=
  .fresh e.schema e.evaluator e.settings.checkConstraints

/-- Bring an instance up to the end of its stream. -/
def sync (e : Engine) (id : String) (i : Instance) : Program (Except Fault Unit × Instance) :=
  i.sync e.types e.settings.checkConstraints id

/-- The state of an instance. -/
def view (id : String) (i : Instance) : AggregateState :=
  ⟨id, i.version, i.net.marking⟩

/-- Look at the instance of an aggregate, which is loaded if none is kept.  An aggregate without
events is not kept. -/
def inspectWith {α : Type} (e : Engine) (id : String) (look : Instance → α) :
    Program (Except Fault α × Engine) := do
  match e.instances.get? id with
  | some i =>
    if i.loaded then pure (.ok (look i), e)
    else
      match ← e.sync id i with
      | (.error f, i) => pure (.error f, e.keep id i)
      | (.ok (), i) => pure (.ok (look i), e.keep id i)
  | none =>
    match ← e.sync id e.fresh with
    | (.error f, _) => pure (.error f, e)
    | (.ok (), i) =>
      if i.version = noStream then pure (.ok (look i), e) else pure (.ok (look i), e.keep id i)

/-- The state of an aggregate as it is kept, or else as loaded. -/
def state (e : Engine) (id : String) : Program (Except Fault AggregateState × Engine) :=
  e.inspectWith id (view id)

/-- The actions enabled in the state of an aggregate. -/
def enabledActions (e : Engine) (id : String) : Program (Except Fault (List String) × Engine) :=
  e.inspectWith id fun i => i.net.enabledActions

/-- The state of an aggregate at the end of its stream. -/
def loadState (e : Engine) (id : String) : Program (Except Fault AggregateState × Engine) := do
  match e.instances.get? id with
  | some i =>
    match ← e.sync id i with
    | (.error f, i) => pure (.error f, e.keep id i)
    | (.ok (), i) => pure (.ok (view id i), e.keep id i)
  | none => e.state id

/-- All events of an aggregate. -/
def events (id : String) : Program (Except Fault (List Event)) :=
  Program.read id 0

/-- Whether the state is saved at a version. -/
def savesAt (s : EngineSettings) (version : Int) : Bool :=
  match s.snapshotInterval with
  | none => false
  | some n => 0 < n && (version + 1) % n == 0

/-- Save the state of an instance if it is time to. -/
def saveIfDue (e : Engine) (id : String) (i : Instance) : Program Unit :=
  if savesAt e.settings i.version then do
    let stamp ← Program.newStamp
    match ← Program.saveSnapshot (.new stamp.time id i.version i.net.marking.toJson) with
    | .ok () => Program.emit [.count .snapshotsSaved [] 1, .log .debug "snapshot saved"]
    | .error _ => Program.log .warn "snapshot save failed"
  else pure ()

/-- The event of an executed action. -/
def eventOf (e : Engine) (stamp : Stamp) (id action : String) (bindings : Bindings)
    (metadata : Option Metadata) : Event :=
  { Event.new stamp id (e.types.eventType action) bindings.toJson with metadata }

/-- Append the event of an action that an instance has executed; the instance goes back to the
marking from before if the append is refused. -/
def record (e : Engine) (id action : String) (bindings : Bindings) (metadata : Option Metadata)
    (before : Marking) (i : Instance) : Program (Except Fault Event × Instance) := do
  let stamp ← Program.newStamp
  let event := e.eventOf stamp id action bindings metadata
  match ← Program.append id i.version [event] with
  | .error f => pure (.error f, i.restore before)
  | .ok version =>
    let i := { i with version }
    e.saveIfDue id i
    pure (.ok { event with version }, i)

/-- Fail and report the fault. -/
def refuse (f : Fault) (i : Instance) : Program (Except Fault Event × Instance) :=
  Program.ofTraced (f.refuse i)

/-- Execute an action on an instance that is caught up. -/
def executeCaughtUp (e : Engine) (id action : String) (bindings : Bindings)
    (metadata : Option Metadata) (i : Instance) : Program (Except Fault Event × Instance) :=
  if !i.net.enabled action then refuse (.actionNotEnabled action) i
  else do
    let before := i.net.marking
    let (r, net) ← Program.ofTraced (Net.traced (i.net.executeWith action bindings))
    let i := { i with net }
    match r with
    | .error f => pure (.error f, i)
    | .ok () => e.record id action bindings metadata before i

/-- Execute an action on an instance and record its event. -/
def executeOn (e : Engine) (id action : String) (bindings : Bindings) (metadata : Option Metadata)
    (i : Instance) : Program (Except Fault Event × Instance) := do
  match ← e.sync id i with
  | (.error f, i) => pure (.error f, i)
  | (.ok (), i) => e.executeCaughtUp id action bindings metadata i

/-- The signals of a finished command. -/
def commandSignals (action : String) : Except Fault Event → List Signal
  | .ok _ => [.count .actionsExecuted [("action", action)] 1, .duration .actionDuration,
      .log .debug "action executed"]
  | .error f =>
    (if f.code.isRejection then [.count .actionsRejected [("action", action)] 1] else []) ++
      [(Severity.ofCode f.code).logLine]

/-- The engine after a command.  The instance of an aggregate that still has no events is forgotten
if the command failed. -/
def settle (e : Engine) (id : String) (r : Except Fault Event) (i : Instance) : Engine :=
  match r with
  | .ok _ => e.keep id i
  | .error _ => if i.version = noStream then e.forget id else e.keep id i

/-- Execute an action and record its event; answers the event as recorded. -/
def execute (e : Engine) (id action : String) (bindings : Bindings) (metadata : Option Metadata) :
    Program (Except Fault Event × Engine) :=
  match e.schema.action? action with
  | none => do
    let f := Fault.actionNotFound action
    Program.emit (f.signals ++ [(Severity.ofCode f.code).logLine])
    pure (.error f, e)
  | some _ => do
    let (r, i) ← e.executeOn id action bindings metadata ((e.instances.get? id).getD e.fresh)
    Program.emit (commandSignals action r)
    pure (r, e.settle id r i)

/-- Whether a fault is a conflict. -/
def isConflict (f : Fault) : Bool :=
  f.code == .concurrencyConflict

/-- Execute an action, and once more after each conflict, up to a number of further tries. -/
def executeUpTo (id action : String) (bindings : Bindings) :
    (tries : Nat) → Engine → Program (Except Fault Event × Engine)
  | tries, e => do
    match ← e.execute id action bindings none with
    | (.ok event, e) => pure (.ok event, e)
    | (.error f, e) =>
      match tries with
      | 0 => pure (.error f, e)
      | tries + 1 =>
        if isConflict f then do
          Program.log .debug "concurrency conflict, retrying"
          executeUpTo id action bindings tries e
        else pure (.error f, e)

/-- Execute an action, and again after conflicts as often as the settings allow. -/
def executeWithRetry (e : Engine) (id action : String) (bindings : Bindings) :
    Program (Except Fault Event × Engine) :=
  executeUpTo id action bindings e.settings.maxRetries e

/-- The form shown for inspection, given the name of the store. -/
def inspect (e : Engine) (store : String) : String :=
  "Engine \x7b schema: " ++ Text.quoted e.schema.name ++ ", store: " ++ Text.quoted store ++
    ", cached_aggregates: " ++ toString e.cached ++ ", config: " ++ e.settings.inspect ++ " \x7d"

end Engine

end EventNet
