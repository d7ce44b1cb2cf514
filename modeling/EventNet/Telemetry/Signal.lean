/-!
What the library reports about its own work: counters, recorded durations and log lines.

Signals are part of a result, not an effect.  An operation that reports something answers a `Traced`
value: the plain result and the signals in the order they arose.  The plain result of a sequence of
traced operations is the sequence of their plain results, so a statement about results never has to
mention signals.
-/

namespace EventNet

/-- Log levels. -/
inductive Level where
  | trace | debug | info | warn | error
  deriving DecidableEq, Repr

/-- The name of a level. -/
def Level.name : Level → String
  | .trace => "TRACE"
  | .debug => "DEBUG"
  | .info => "INFO"
  | .warn => "WARN"
  | .error => "ERROR"

/-- What is measured. -/
inductive Metric where
  | actionsExecuted
  | actionsRejected
  | actionDuration
  | eventsAppended
  | concurrencyConflicts
  | subscriptionDropped
  | replayFailures
  | snapshotsSaved
  | errors
  deriving DecidableEq, Repr

namespace Metric

/-- Every metric. -/
def all : List Metric :=
  [actionsExecuted, actionsRejected, actionDuration, eventsAppended, concurrencyConflicts,
   subscriptionDropped, replayFailures, snapshotsSaved, errors]

/-- The exported name. -/
def name : Metric → String
  | actionsExecuted => "petri_actions_executed_total"
  | actionsRejected => "petri_actions_rejected_total"
  | actionDuration => "petri_action_duration_seconds"
  | eventsAppended => "petri_events_appended_total"
  | concurrencyConflicts => "petri_concurrency_conflicts_total"
  | subscriptionDropped => "petri_subscription_dropped_total"
  | replayFailures => "petri_replay_failures_total"
  | snapshotsSaved => "petri_snapshots_saved_total"
  | errors => "petri_errors_total"

/-- Whether durations are recorded rather than occurrences counted. -/
def isHistogram : Metric → Bool
  | actionDuration => true
  | _ => false

/-- What one unit of a metric is. -/
def unit (m : Metric) : String :=
  if m.isHistogram then "seconds" else "count"

/-- What a metric tells. -/
def description : Metric → String
  | actionsExecuted => "Actions executed and persisted, by action"
  | actionsRejected => "Actions refused as not enabled or guarded, by action"
  | actionDuration => "Wall time of engine action execution"
  | eventsAppended => "Events appended, by store backend"
  | concurrencyConflicts => "Appends rejected by the version check"
  | subscriptionDropped => "Events dropped for full subscriber queues"
  | replayFailures => "Stored events that could not be replayed"
  | snapshotsSaved => "Aggregate snapshots written by the engine"
  | errors => "Errors constructed, by code and category"

end Metric

/-- One report. -/
inductive Signal where
  /-- A counter is increased; labels are in the order of their names. -/
  | count (metric : Metric) (labels : List (String × String)) (amount : Nat)
  /-- A duration is recorded. -/
  | duration (metric : Metric)
  | log (level : Level) (message : String)
  deriving DecidableEq, Repr

/-- A result with the signals that arose on the way to it. -/
structure Traced (α : Type) where
  value : α
  signals : List Signal
  deriving Repr

namespace Traced

variable {α β : Type}

/-- A result without signals. -/
def silent (a : α) : Traced α :=
  ⟨a, []⟩

/-- One signal. -/
def emit (s : Signal) : Traced Unit :=
  ⟨(), [s]⟩

/-- Several signals. -/
def emitAll (s : List Signal) : Traced Unit :=
  ⟨(), s⟩

/-- One log line. -/
def log (level : Level) (message : String) : Traced Unit :=
  emit (.log level message)

/-- Go on with a result; the signals of both parts follow each other. -/
def andThen (t : Traced α) (f : α → Traced β) : Traced β :=
  let u := f t.value
  ⟨u.value, t.signals ++ u.signals⟩

instance : Monad Traced where
  pure := silent
  bind := andThen

@[simp] theorem value_pure (a : α) : (pure a : Traced α).value = a := rfl

@[simp] theorem value_bind (t : Traced α) (f : α → Traced β) :
    (t >>= f).value = (f t.value).value := rfl

@[simp] theorem value_map (f : α → β) (t : Traced α) : (f <$> t).value = f t.value := rfl

end Traced

end EventNet
