import EventNet.Dict
import EventNet.Store.Hub

/-!
Settings of stores, engines and logging, with their defaults.
-/

namespace EventNet

/-- Kinds of stores. -/
inductive Backend where
  | memory
  | database
  deriving DecidableEq, Repr

/-- How to open a store. -/
structure StoreSettings where
  backend : Backend
  /-- Where the database is; a store in memory does not look at it. -/
  url : String
  maxConnections : Nat
  /-- How long to wait for a connection, in nanoseconds. -/
  acquireTimeout : Nat
  /-- How many events the queue of a subscription holds. -/
  subscriptionBuffer : Nat
  deriving DecidableEq, Repr

/-- How an engine works. -/
structure EngineSettings where
  /-- After how many events of an aggregate its state is saved; none means never. -/
  snapshotInterval : Option Nat
  /-- How often a command is tried again after a conflict. -/
  maxRetries : Nat
  checkConstraints : Bool
  deriving DecidableEq, Repr

/-- Forms of log lines. -/
inductive LogFormat where
  | json
  | pretty
  | compact
  deriving DecidableEq, Repr

/-- Which moments of a span are logged. -/
structure SpanEvents where
  onNew : Bool
  onClose : Bool
  deriving DecidableEq, Repr

/-- What is logged and how. -/
structure LoggingSettings where
  level : String
  format : LogFormat
  /-- Levels by module. -/
  moduleLevels : Dict String
  includeLocation : Bool
  includeTarget : Bool
  spanEvents : SpanEvents
  deriving DecidableEq, Repr

/-- All settings. -/
structure Settings where
  store : StoreSettings
  engine : EngineSettings
  logging : LoggingSettings
  deriving DecidableEq, Repr

/-- A store in memory; a database would be in memory too. -/
def StoreSettings.default : StoreSettings :=
  ⟨.memory, "sqlite::memory:", 5, 30000000000, Hub.defaultBuffer⟩

/-- Three tries after a conflict, constraints checked, no states saved. -/
def EngineSettings.default : EngineSettings :=
  ⟨none, 3, true⟩

/-- No moments of spans. -/
def SpanEvents.default : SpanEvents :=
  ⟨false, false⟩

/-- The level of the log lines that are wanted unless the environment names another. -/
def LoggingSettings.defaultLevel : String := "info"

/-- Lines in JSON with the module they come from. -/
def LoggingSettings.default (level : String) : LoggingSettings :=
  ⟨level, .json, [], false, true, .default⟩

/-- The settings where nothing is set, given the level of log lines. -/
def Settings.default (level : String) : Settings :=
  ⟨.default, .default, .default level⟩

/-- The form of engine settings shown for inspection. -/
def EngineSettings.inspect (s : EngineSettings) : String :=
  let interval := match s.snapshotInterval with
    | none => "None"
    | some n => "Some(" ++ toString n ++ ")"
  "EngineConfig \x7b snapshot_interval: " ++ interval ++ ", max_retries: " ++
    toString s.maxRetries ++ ", check_constraints: " ++ Value.boolText s.checkConstraints ++ " \x7d"

end EventNet
