import EventNet.Store.Table

/-!
Reports on the tables of an event database: the streams page by page, and totals.

A page lists streams by the time of their last event, the latest first, and streams of the same time
by name.  Pages are numbered from one.
-/

namespace EventNet

/-- What a report tells about one stream. -/
structure InstanceSummary where
  stream : String
  version : Int
  lastEventType : String
  eventCount : Nat
  createdAt : Instant
  updatedAt : Instant
  deriving Repr

/-- One page of streams. -/
structure InstancePage where
  instances : List InstanceSummary
  /-- The number of streams on all pages. -/
  total : Nat
  page : Nat
  perPage : Nat
  deriving Repr

/-- Totals over all events. -/
structure StoreStats where
  totalEvents : Nat
  totalStreams : Nat
  eventsByType : Dict Nat
  firstEventAt : Option Instant
  lastEventAt : Option Instant
  deriving Repr

/-- The greatest number of streams on a page. -/
def maxPageSize : Nat := 1000

/-- The bound below which page counts are kept. -/
def pageCountBound : Nat := 4294967296

namespace InstancePage

/-- The number of pages, counted modulo 2^32. -/
def totalPages (p : InstancePage) : Nat :=
  if p.total == 0 then 0 else (p.total + p.perPage - 1) / p.perPage % pageCountBound

/-- Whether a page follows. -/
def hasNext (p : InstancePage) : Bool :=
  p.page < p.totalPages

end InstancePage

/-- One stream before its times are read. -/
structure StreamGroup where
  stream : String
  rows : List EventRow

namespace StreamGroup

/-- The time of the first event. -/
def created (g : StreamGroup) : Int :=
  (g.rows.map (·.time)).min?.getD 0

/-- The time of the last event. -/
def updated (g : StreamGroup) : Int :=
  (g.rows.map (·.time)).max?.getD 0

/-- The greatest version. -/
def version (g : StreamGroup) : Int :=
  (g.rows.map (·.version)).max?.getD noStream

/-- The type of the event of the greatest version. -/
def lastEventType (g : StreamGroup) : String :=
  ((g.rows.find? (·.version == g.version)).map (·.type)).getD ""

/-- Whether a stream is listed before another one. -/
def listedBefore (a b : StreamGroup) : Bool :=
  b.updated < a.updated || (a.updated == b.updated && a.stream ≤ b.stream)

/-- Read the times of a stream. -/
def summary (g : StreamGroup) : Except Fault InstanceSummary :=
  match instantOfMicros g.created with
  | .error f => .error f
  | .ok createdAt =>
    (instantOfMicros g.updated).map fun updatedAt =>
      ⟨g.stream, g.version, g.lastEventType, g.rows.length, createdAt, updatedAt⟩

/-- Read the times of streams. -/
def summaries : List StreamGroup → Except Fault (List InstanceSummary)
  | [] => .ok []
  | g :: rest =>
    match g.summary with
    | .error f => .error f
    | .ok s => (summaries rest).map (s :: ·)

end StreamGroup

namespace Tables

/-- The names of all streams, each once. -/
def streamNames (t : Tables) : List String :=
  (t.events.map (·.stream)).eraseDups

/-- All streams in the order of listing. -/
def listing (t : Tables) : List StreamGroup :=
  (t.streamNames.map fun stream => ⟨stream, t.streamRows stream⟩).mergeSort
    StreamGroup.listedBefore

/-- A page of streams. -/
def instances (t : Tables) (page perPage : Nat) : Except Fault InstancePage :=
  let page := max page 1
  let perPage := max 1 (min perPage maxPageSize)
  let groups := (t.listing.drop ((page - 1) * perPage)).take perPage
  (StreamGroup.summaries groups).map fun instances =>
    ⟨instances, t.streamNames.length, page, perPage⟩

/-- Read a time that may be missing. -/
def instantOfMicros? : Option Int → Except Fault (Option Instant)
  | none => .ok none
  | some n => (instantOfMicros n).map some

/-- The number of events by type. -/
def countsByType (t : Tables) : Dict Nat :=
  t.events.foldl (fun d r => d.insert r.type ((d.get? r.type).getD 0 + 1)) []

/-- Totals over all events. -/
def stats (t : Tables) : Except Fault StoreStats :=
  let times := t.events.map (·.time)
  match instantOfMicros? times.min? with
  | .error f => .error f
  | .ok first =>
    (instantOfMicros? times.max?).map fun last =>
      ⟨t.events.length, t.streamNames.length, t.countsByType, first, last⟩

end Tables

/-- Write what is told about a stream. -/
def InstanceSummary.toJson (s : InstanceSummary) : Json :=
  .obj [("stream_id", .str s.stream), ("version", .int s.version),
    ("last_event_type", .str s.lastEventType), ("event_count", .int s.eventCount),
    ("created_at", .str s.createdAt.text), ("updated_at", .str s.updatedAt.text)]

/-- The fields of a page. -/
def InstancePage.fields (p : InstancePage) : List (String × Json) :=
  [("instances", .arr (p.instances.map InstanceSummary.toJson)), ("total", .int p.total),
    ("page", .int p.page), ("per_page", .int p.perPage)]

/-- What follows from the numbers of a page. -/
def InstancePage.counts (p : InstancePage) : List (String × Json) :=
  [("total_pages", .int p.totalPages), ("has_next", .bool p.hasNext)]

/-- Write a page with what follows from its numbers. -/
def InstancePage.toJson (p : InstancePage) : Json :=
  .obj (p.fields ++ p.counts)

/-- Write totals. -/
def StoreStats.toJson (s : StoreStats) : Json :=
  let time (t : Option Instant) : Json :=
    match t with
    | some t => .str t.text
    | none => .null
  .obj [("total_events", .int s.totalEvents), ("total_streams", .int s.totalStreams),
    ("events_by_type", .obj (s.eventsByType.map fun (k, n) => (k, .int n))),
    ("first_event_at", time s.firstEventAt), ("last_event_at", time s.lastEventAt)]

end EventNet
