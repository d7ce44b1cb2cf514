import EventNet.Event.Basic
import EventNet.Fault.Basic

/-!
Batches of events on their way into a stream.

A batch is numbered from the version after the one its writer expects the stream to have.  Times are
cut down to microseconds, which is what every store keeps, so that events read back are the events as
stamped.
-/

namespace EventNet

namespace Batch

/-- Give events a stream and consecutive versions from `version` on. -/
def numberFrom (stream : String) (version : Int) : List Event → List Event
  | [] => []
  | e :: rest =>
    { e with stream, version, timestamp := e.timestamp.toMicrosecond } ::
      numberFrom stream (version + 1) rest

/-- Number a batch that is expected to follow a version.  An expected version below that of an empty
stream, or so great that the numbers run out of 64 bits, is a conflict. -/
def stamp (stream : String) (expected : Int) (events : List Event) : Except Fault (List Event) :=
  if expected < noStream then .error (.conflict stream expected noStream)
  else if !events.isEmpty && Double.maxInt64 < expected + events.length then
    .error (.conflict stream expected noStream)
  else .ok (numberFrom stream (expected + 1) events)

theorem stream_of_numberFrom {stream : String} {version : Int} {events : List Event} :
    ∀ e ∈ numberFrom stream version events, e.stream = stream := by
  induction events generalizing version with
  | nil => exact fun e he => absurd he List.not_mem_nil
  | cons first rest ih => exact List.forall_mem_cons.mpr ⟨rfl, ih⟩

/-- All events of a numbered batch belong to its stream. -/
theorem stream_of_stamp {stream : String} {expected : Int} {events stamped : List Event}
    (h : stamp stream expected events = .ok stamped) : ∀ e ∈ stamped, e.stream = stream := by
  unfold stamp at h
  split at h
  · cases h
  split at h
  · cases h
  · cases h
    exact stream_of_numberFrom

end Batch

end EventNet
