import EventNet.Dict
import EventNet.Telemetry.Signal

/-!
Signals added up: counters by name and labels, the number of recorded durations, and the log lines
in order.
-/

namespace EventNet

/-- What a recorder and a log collector hold after some signals. -/
structure Summary where
  counters : Dict Nat
  histograms : Dict Nat
  logs : List (Level × String)

namespace Summary

/-- A metric with its labels in braces. -/
def series (metric : Metric) (labels : List (String × String)) : String :=
  let pairs := labels.map fun (k, v) => k ++ "=" ++ v
  metric.name ++ "\x7b" ++ ",".intercalate pairs ++ "\x7d"

/-- Add to the number kept for a name. -/
def add (d : Dict Nat) (key : String) (n : Nat) : Dict Nat :=
  d.insert key ((d.get? key).getD 0 + n)

/-- Add up signals. -/
def ofSignals (signals : List Signal) : Summary where
  counters := signals.foldl (fun d s => match s with
    | .count m labels n => add d (series m labels) n
    | _ => d) []
  histograms := signals.foldl (fun d s => match s with
    | .duration m => add d (series m []) 1
    | _ => d) []
  logs := signals.filterMap fun s => match s with
    | .log level message => some (level, message)
    | _ => none

end Summary

end EventNet
