import EventNet.Event.Basic

/-!
A log of events with an index by stream.

The log holds the events of all streams in the order of their appending, and for each stream the
positions at which its events stand in it.  A stream is read through its positions, and its version is
one less than their number.  `Log.indexed` says that the index fits the events; extending a stream keeps
it that way.
-/

namespace EventNet

/-- The positions of a stream in a list of events whose first one stands at `start`. -/
def streamPositions (stream : String) : (start : Nat) → List Event → List Nat
  | _, [] => []
  | start, e :: rest =>
    if e.stream = stream then start :: streamPositions stream (start + 1) rest
    else streamPositions stream (start + 1) rest

theorem streamPositions_append (stream : String) (start : Nat) (xs ys : List Event) :
    streamPositions stream start (xs ++ ys) =
      streamPositions stream start xs ++ streamPositions stream (start + xs.length) ys := by
  induction xs generalizing start with
  | nil => rfl
  | cons e rest ih =>
      have hstart : start + 1 + rest.length = start + (e :: rest).length := by
        rw [List.length_cons]
        omega
      simp only [List.cons_append, streamPositions, ih, hstart]
      split <;> rfl

/-- Events of the stream alone stand one after the other. -/
theorem streamPositions_of_stream {stream : String} {events : List Event}
    (h : ∀ e ∈ events, e.stream = stream) (start : Nat) :
    streamPositions stream start events = List.range' start events.length := by
  induction events generalizing start with
  | nil => rfl
  | cons e rest ih =>
      obtain ⟨he, hrest⟩ := List.forall_mem_cons.mp h
      rw [streamPositions, if_pos he, ih hrest]
      rfl

theorem streamPositions_of_others {stream : String} {events : List Event}
    (h : ∀ e ∈ events, e.stream ≠ stream) (start : Nat) :
    streamPositions stream start events = [] := by
  induction events generalizing start with
  | nil => rfl
  | cons e rest ih =>
      obtain ⟨he, hrest⟩ := List.forall_mem_cons.mp h
      rw [streamPositions, if_neg he, ih hrest]

/-- Events with the positions of each stream. -/
structure Log where
  /-- The events of all streams in the order of their appending. -/
  events : List Event
  /-- By stream, the positions of its events in version order. -/
  positions : Dict (List Nat)
  indexed : ∀ stream, (positions.get? stream).getD [] = streamPositions stream 0 events

namespace Log

/-- A log without events. -/
def empty : Log :=
  ⟨[], [], fun _ => rfl⟩

/-- The number of events. -/
def length (l : Log) : Nat :=
  l.events.length

/-- Whether there are no events. -/
def isEmpty (l : Log) : Bool :=
  l.length == 0

/-- The version of a stream. -/
def version (l : Log) (stream : String) : Int :=
  match l.positions.get? stream with
  | none => noStream
  | some positions => positions.length - 1

/-- The events of a stream from a position in the stream on. -/
def read (l : Log) (stream : String) (start : Nat) : List Event :=
  match l.positions.get? stream with
  | none => []
  | some positions => (positions.drop start).filterMap (l.events[·]?)

/-- The log with a batch of events at the end of their stream. -/
def extend (l : Log) (stream : String) (batch : List Event) (h : ∀ e ∈ batch, e.stream = stream) :
    Log where
  events := l.events ++ batch
  positions :=
    l.positions.insert stream
      ((l.positions.get? stream).getD [] ++ List.range' l.events.length batch.length)
  indexed other := by
    rw [Dict.get?_insert, streamPositions_append, ← l.indexed other, Nat.zero_add]
    by_cases hs : stream = other
    · subst hs
      rw [if_pos rfl, streamPositions_of_stream h]
      rfl
    · have hothers : ∀ e ∈ batch, e.stream ≠ other := fun e he => h e he ▸ hs
      rw [if_neg hs, streamPositions_of_others hothers, List.append_nil]

end Log

end EventNet
