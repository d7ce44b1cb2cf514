import EventNet.Json.Shape
import EventNet.Settings.Basic
import EventNet.Settings.Duration

/-!
The written form of settings.

Settings are records in which every field has a default.  How their scalars are read is a parameter:
`Reading.exact` takes each scalar in its own form only, and a source of settings that knows nothing but
texts can be read in a more lenient way.
-/

namespace EventNet

/-- How the parts of settings are read. -/
structure Reading where
  record : List String → Json → Option Json.Record
  bool : Json → Option Bool
  uint32 : Json → Option Nat
  uint64 : Json → Option Nat
  text : Json → Option String
  /-- One of some words. -/
  word : List String → Json → Option String

namespace Reading

/-- Every part in its own form. -/
def exact : Reading where
  record := Json.record?
  bool := Json.bool?
  uint32 := Json.uint32?
  uint64 := Json.uint64?
  text := Json.str?
  word := fun words => Json.oneOf? (words.map fun w => (w, w))

/-- Read one of a choice of words. -/
def choice {α : Type} (r : Reading) (choices : List (String × α)) (j : Json) : Option α :=
  (r.word (choices.map (·.1)) j).bind fun w => (choices.find? (·.1 == w)).map (·.2)

/-- Read a duration. -/
def duration (r : Reading) (j : Json) : Option Nat :=
  (r.text j).bind Duration.ofText?

end Reading

/-- The words for the kinds of stores. -/
def Backend.words : List (String × Backend) :=
  [("memory", .memory), ("sqlite", .database)]

/-- The word for a kind of store. -/
def Backend.word : Backend → String
  | .memory => "memory"
  | .database => "sqlite"

/-- The words for the forms of log lines. -/
def LogFormat.words : List (String × LogFormat) :=
  [("json", .json), ("pretty", .pretty), ("compact", .compact)]

/-- The word for a form of log lines. -/
def LogFormat.word : LogFormat → String
  | .json => "json"
  | .pretty => "pretty"
  | .compact => "compact"

namespace StoreSettings

/-- Write the settings of a store. -/
def toJson (s : StoreSettings) : Json :=
  .obj [("acquire_timeout", .str (Duration.text s.acquireTimeout)),
    ("backend", .str s.backend.word), ("max_connections", .int s.maxConnections),
    ("subscription_buffer", .int s.subscriptionBuffer), ("url", .str s.url)]

/-- Read the settings of a store. -/
def ofJson? (read : Reading) (j : Json) : Option StoreSettings := do
  let absent := StoreSettings.default
  let r ← read.record
    ["backend", "url", "max_connections", "acquire_timeout", "subscription_buffer"] j
  let backend ← r.withDefault "backend" absent.backend (read.choice Backend.words)
  let url ← r.withDefault "url" absent.url read.text
  let maxConnections ← r.withDefault "max_connections" absent.maxConnections read.uint32
  let acquireTimeout ← r.withDefault "acquire_timeout" absent.acquireTimeout read.duration
  let subscriptionBuffer ←
    r.withDefault "subscription_buffer" absent.subscriptionBuffer read.uint64
  some ⟨backend, url, maxConnections, acquireTimeout, subscriptionBuffer⟩

end StoreSettings

namespace EngineSettings

/-- Write the settings of an engine. -/
def toJson (s : EngineSettings) : Json :=
  .obj [("check_constraints", .bool s.checkConstraints), ("max_retries", .int s.maxRetries),
    ("snapshot_interval", match s.snapshotInterval with
      | none => .null
      | some n => .int n)]

/-- Read the settings of an engine. -/
def ofJson? (read : Reading) (j : Json) : Option EngineSettings := do
  let absent := EngineSettings.default
  let r ← read.record ["snapshot_interval", "max_retries", "check_constraints"] j
  let snapshotInterval ← r.nullable "snapshot_interval" read.uint64
  let maxRetries ← r.withDefault "max_retries" absent.maxRetries read.uint32
  let checkConstraints ← r.withDefault "check_constraints" absent.checkConstraints read.bool
  some ⟨snapshotInterval, maxRetries, checkConstraints⟩

end EngineSettings

namespace SpanEvents

/-- Write which moments of a span are logged. -/
def toJson (s : SpanEvents) : Json :=
  .obj [("on_close", .bool s.onClose), ("on_new", .bool s.onNew)]

/-- Read which moments of a span are logged. -/
def ofJson? (read : Reading) (j : Json) : Option SpanEvents := do
  let r ← read.record ["on_new", "on_close"] j
  let onNew ← r.withDefault "on_new" SpanEvents.default.onNew read.bool
  let onClose ← r.withDefault "on_close" SpanEvents.default.onClose read.bool
  some ⟨onNew, onClose⟩

end SpanEvents

namespace LoggingSettings

/-- Write the settings of logging. -/
def toJson (s : LoggingSettings) : Json :=
  .obj [("format", .str s.format.word), ("include_location", .bool s.includeLocation),
    ("include_target", .bool s.includeTarget), ("level", .str s.level),
    ("module_levels", .obj (s.moduleLevels.map fun (m, level) => (m, .str level))),
    ("span_events", s.spanEvents.toJson)]

/-- Read the settings of logging, given the level where none is set. -/
def ofJson? (read : Reading) (level : String) (j : Json) : Option LoggingSettings := do
  let absent := LoggingSettings.default level
  let r ← read.record
    ["level", "format", "module_levels", "include_location", "include_target", "span_events"] j
  let level ← r.withDefault "level" absent.level read.text
  let format ← r.withDefault "format" absent.format (read.choice LogFormat.words)
  let moduleLevels ← r.withDefault "module_levels" absent.moduleLevels (Json.dictOf? read.text)
  let includeLocation ← r.withDefault "include_location" absent.includeLocation read.bool
  let includeTarget ← r.withDefault "include_target" absent.includeTarget read.bool
  let spanEvents ← r.withDefault "span_events" absent.spanEvents (SpanEvents.ofJson? read)
  some ⟨level, format, moduleLevels, includeLocation, includeTarget, spanEvents⟩

end LoggingSettings

namespace Settings

/-- Write settings. -/
def toJson (s : Settings) : Json :=
  .obj [("engine", s.engine.toJson), ("logging", s.logging.toJson), ("store", s.store.toJson)]

/-- Read settings, given the level of log lines where none is set. -/
def ofJson? (read : Reading) (level : String) (j : Json) : Option Settings := do
  let absent := Settings.default level
  let r ← read.record ["store", "engine", "logging"] j
  let store ← r.withDefault "store" absent.store (StoreSettings.ofJson? read)
  let engine ← r.withDefault "engine" absent.engine (EngineSettings.ofJson? read)
  let logging ← r.withDefault "logging" absent.logging (LoggingSettings.ofJson? read level)
  some ⟨store, engine, logging⟩

end Settings

end EventNet
