import EventNet.Store.Log
import Mathlib.Data.List.Basic

/-!
What is read through the index of a log.

The positions of a stream lead to its events and to nothing else, in the order of the log.  So the index
can be forgotten: a stream is what a filter picks from the log, its version is one less than the number
of these events, and reading from a position on drops as many of them.
-/

namespace EventNet

/-- The positions of a stream lead to its events.  The events lie behind others in the list that is
looked at, so that the induction on them goes through. -/
theorem map_streamPositions (stream : String) (before events : List Event) :
    (streamPositions stream before.length events).map (fun i => (before ++ events)[i]?) =
      (events.filter (·.stream == stream)).map some := by
  induction events generalizing before with
  | nil => rfl
  | cons e rest ih =>
      have hrest := ih (before ++ [e])
      rw [List.length_append, List.length_singleton, List.append_assoc, List.singleton_append]
        at hrest
      rw [streamPositions, List.filter_cons]
      by_cases he : e.stream = stream
      · have hhead : (before ++ e :: rest)[before.length]? = some e := by simp
        rw [if_pos he, if_pos (by simpa using he), List.map_cons, List.map_cons, hhead, hrest]
      · rw [if_neg he, if_neg (by simpa using he), hrest]

namespace Log

variable (l : Log) (stream : String)

theorem map_positions :
    ((l.positions.get? stream).getD []).map (l.events[·]?) =
      (l.events.filter (·.stream == stream)).map some := by
  rw [l.indexed]
  exact map_streamPositions stream [] l.events

theorem version_eq : l.version stream = (l.events.filter (·.stream == stream)).length - 1 := by
  have hlength := congrArg List.length (l.map_positions stream)
  rw [List.length_map, List.length_map] at hlength
  rw [← hlength]
  unfold version
  cases l.positions.get? stream with
  | none => rfl
  | some positions => rfl

theorem read_eq (start : Nat) :
    l.read stream start = (l.events.filter (·.stream == stream)).drop start := by
  have hread : l.read stream start =
      (((l.positions.get? stream).getD []).drop start).filterMap (l.events[·]?) := by
    unfold read
    cases l.positions.get? stream with
    | none => simp
    | some positions => rfl
  calc l.read stream start
      = ((((l.positions.get? stream).getD []).map (l.events[·]?)).drop start).filterMap id := by
        rw [hread, ← List.map_drop, List.filterMap_map]
        rfl
    _ = (l.events.filter (·.stream == stream)).drop start := by
        rw [l.map_positions, ← List.map_drop, List.filterMap_map, Function.id_comp,
          List.filterMap_some]

theorem version_extend {batch : List Event} (h : ∀ e ∈ batch, e.stream = stream) :
    (l.extend stream batch h).version stream = l.version stream + batch.length := by
  have hbatch : batch.filter (·.stream == stream) = batch :=
    List.filter_eq_self.mpr fun e he => by simpa using h e he
  rw [version_eq, version_eq]
  show (((l.events ++ batch).filter (·.stream == stream)).length : Int) - 1 = _
  rw [List.filter_append, hbatch, List.length_append]
  omega

end Log

end EventNet
