import EventNet.Json.Basic
import EventNet.Telemetry.Summary

/-!
The written form of what was reported.
-/

namespace EventNet

/-- Numbers by name. -/
def Summary.numbers (d : Dict Nat) : Json :=
  .obj (d.mapValues fun (n : Nat) => .int n)

/-- Write a log line as its level and its message. -/
def Summary.lineJson (line : Level × String) : Json :=
  .arr [.str line.1.name, .str line.2]

/-- The fields of a summary. -/
def Summary.fields (s : Summary) : List (String × Json) :=
  [("counters", numbers s.counters), ("histograms", numbers s.histograms),
   ("logs", .arr (s.logs.map lineJson))]

/-- The kind of a metric. -/
def Metric.kind (m : Metric) : String :=
  if m.isHistogram then "histogram" else "counter"

/-- Write what a metric means. -/
def Metric.toJson (m : Metric) : Json :=
  .arr [.str m.kind, .str m.name, .str m.unit, .str m.description]

/-- What all metrics mean, in the order of their kinds and names. -/
def Metric.catalogue : List Json :=
  (Dict.ofList (all.map fun m => (m.kind ++ " " ++ m.name, m.toJson))).values

end EventNet
