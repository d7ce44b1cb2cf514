import EventNet.Store.Batch

/-!
What a store holds, whatever its kind.

A `Ledger` is the log of all events and the saved states, and whether calls are still answered.  Its
operations say what a store answers and what it holds afterwards, without subscriptions, signals and
tables.  The events of a stream are numbered from zero without gaps (`Numbered`); appending keeps that.
-/

namespace EventNet

/-- The contents of a store. -/
structure Ledger where
  /-- The events of all streams in the order of their appending. -/
  log : List Event
  /-- Saved states by stream. -/
  snapshots : Dict StateSnapshot
  closed : Bool

namespace Ledger

/-- A ledger without entries. -/
def empty : Ledger :=
  ⟨[], [], false⟩

/-- The events of a stream. -/
def events (l : Ledger) (stream : String) : List Event :=
  l.log.filter (·.stream == stream)

/-- The version of a stream. -/
def version (l : Ledger) (stream : String) : Int :=
  (l.events stream).length - 1

/-- A ledger with a batch at the end of a stream. -/
def extend (l : Ledger) (stream : String) (batch : List Event) : Ledger :=
  { l with log := l.log ++ Batch.numberFrom stream (l.version stream + 1) batch }

/-- Append a batch to a stream that is expected to have a version; answers the new version. -/
def append (l : Ledger) (stream : String) (expected : Int) (batch : List Event) :
    Except Fault Int × Ledger :=
  if l.closed then (.error .storeClosed, l)
  else if l.version stream ≠ expected then
    (.error (.conflict stream expected (l.version stream)), l)
  else
    match Batch.stamp stream expected batch with
    | .error f => (.error f, l)
    | .ok _ => (.ok (expected + batch.length), l.extend stream batch)

/-- Answer a question, unless the ledger is closed. -/
def answer {α : Type} (l : Ledger) (a : α) : Except Fault α :=
  if l.closed then .error .storeClosed else .ok a

/-- The events of a stream from a version on. -/
def read (l : Ledger) (stream : String) (start : Int) : Except Fault (List Event) :=
  l.answer ((l.events stream).drop start.toNat)

/-- The events of all streams that pass a filter. -/
def readAll (l : Ledger) (f : EventFilter) : Except Fault (List Event) :=
  l.answer (f.cut (l.log.filter f.passes))

/-- Save a state in place of the one saved before. -/
def saveSnapshot (l : Ledger) (s : StateSnapshot) : Except Fault Unit × Ledger :=
  (l.answer (), if l.closed then l else { l with snapshots := l.snapshots.insert s.stream s })

/-- The saved state of a stream. -/
def loadSnapshot (l : Ledger) (stream : String) : Except Fault (Option StateSnapshot) :=
  l.answer (l.snapshots.get? stream)

/-- Delete the saved state of a stream; answers whether there was one. -/
def deleteSnapshot (l : Ledger) (stream : String) : Except Fault Bool × Ledger :=
  (l.answer (l.snapshots.contains stream),
    if l.closed then l else { l with snapshots := l.snapshots.erase stream })

/-- Answer no more calls. -/
def close (l : Ledger) : Ledger :=
  { l with closed := true }

end Ledger

/-! ### Open and closed -/

namespace Ledger

variable {l : Ledger}

theorem answer_closed {α : Type} (h : l.closed = true) (a : α) :
    l.answer a = .error .storeClosed :=
  if_pos h

theorem answer_open {α : Type} (h : l.closed = false) (a : α) : l.answer a = .ok a :=
  if_neg (by simp [h])

theorem append_closed (h : l.closed = true) (stream : String) (expected : Int)
    (batch : List Event) : l.append stream expected batch = (.error .storeClosed, l) :=
  if_pos h

/-- A writer who does not know the version of the stream is told it. -/
theorem append_stale (h : l.closed = false) {stream : String} {expected : Int}
    (hversion : l.version stream ≠ expected) (batch : List Event) :
    l.append stream expected batch =
      (.error (.conflict stream expected (l.version stream)), l) := by
  unfold append
  rw [if_neg (by simp [h]), if_pos hversion]

theorem saveSnapshot_closed (h : l.closed = true) (s : StateSnapshot) :
    l.saveSnapshot s = (.error .storeClosed, l) := by
  unfold saveSnapshot
  rw [answer_closed h, if_pos h]

theorem saveSnapshot_open (h : l.closed = false) (s : StateSnapshot) :
    l.saveSnapshot s = (.ok (), { l with snapshots := l.snapshots.insert s.stream s }) := by
  unfold saveSnapshot
  rw [answer_open h, if_neg (by simp [h])]

theorem deleteSnapshot_closed (h : l.closed = true) (stream : String) :
    l.deleteSnapshot stream = (.error .storeClosed, l) := by
  unfold deleteSnapshot
  rw [answer_closed h, if_pos h]

theorem deleteSnapshot_open (h : l.closed = false) (stream : String) :
    l.deleteSnapshot stream =
      (.ok (l.snapshots.contains stream), { l with snapshots := l.snapshots.erase stream }) := by
  unfold deleteSnapshot
  rw [answer_open h, if_neg (by simp [h])]

end Ledger

/-! ### Batches -/

namespace Batch

/-- An event in its place in a stream. -/
def place (stream : String) (version : Int) (e : Event) : Event :=
  { e with stream, version, timestamp := e.timestamp.toMicrosecond }

theorem getElem?_numberFrom (stream : String) (version : Int) (batch : List Event) (i : Nat) :
    (numberFrom stream version batch)[i]? = batch[i]?.map (place stream (version + i)) := by
  induction batch generalizing version i with
  | nil => rfl
  | cons e rest ih =>
      cases i with
      | zero =>
          rw [Int.natCast_zero, Int.add_zero]
          rfl
      | succ i =>
          show (numberFrom stream (version + 1) rest)[i]? = rest[i]?.map _
          rw [ih, show version + 1 + (i : Int) = version + ((i + 1 : Nat) : Int) by omega]

@[simp] theorem length_numberFrom (stream : String) (version : Int) (batch : List Event) :
    (numberFrom stream version batch).length = batch.length := by
  induction batch generalizing version with
  | nil => rfl
  | cons e rest ih => simp only [numberFrom, List.length_cons, ih]

theorem mem_numberFrom {stream : String} {version : Int} {batch : List Event} {x : Event}
    (h : x ∈ numberFrom stream version batch) :
    ∃ (i : Nat) (e : Event), batch[i]? = some e ∧ x = place stream (version + i) e := by
  obtain ⟨i, hi⟩ := List.mem_iff_getElem?.mp h
  rw [getElem?_numberFrom] at hi
  obtain ⟨e, he, rfl⟩ := Option.map_eq_some_iff.mp hi
  exact ⟨i, e, he, rfl⟩

theorem map_id_numberFrom (stream : String) (version : Int) (batch : List Event) :
    (numberFrom stream version batch).map (·.id) = batch.map (·.id) := by
  induction batch generalizing version with
  | nil => rfl
  | cons e rest ih => simp only [numberFrom, List.map_cons, ih]

/-- A batch is numbered or refused; an empty one is refused only below the version of an empty
stream. -/
theorem stamp_cases (stream : String) (expected : Int) (batch : List Event) :
    stamp stream expected batch = .ok (numberFrom stream (expected + 1) batch) ∨
      ∃ f, stamp stream expected batch = .error f := by
  unfold stamp
  split
  · exact Or.inr ⟨_, rfl⟩
  split
  · exact Or.inr ⟨_, rfl⟩
  · exact Or.inl rfl

theorem fault_of_stamp {stream : String} {expected : Int} {batch : List Event} {f : Fault}
    (h : stamp stream expected batch = .error f) : f = .conflict stream expected noStream := by
  unfold stamp at h
  split at h
  · exact (Except.error.inj h).symm
  split at h
  · exact (Except.error.inj h).symm
  · cases h

theorem stamp_nil {stream : String} {expected : Int} (h : noStream ≤ expected) :
    stamp stream expected [] = .ok [] := by
  unfold stamp
  rw [if_neg (Int.not_lt.mpr h)]
  rfl

end Batch

/-! ### Extending a stream -/

namespace Ledger

variable {l : Ledger} {stream : String}

theorem noStream_le_version (l : Ledger) (stream : String) : noStream ≤ l.version stream := by
  unfold version noStream
  omega

theorem events_extend_self (l : Ledger) (stream : String) (batch : List Event) :
    (l.extend stream batch).events stream =
      l.events stream ++ Batch.numberFrom stream (l.version stream + 1) batch := by
  show List.filter _ (l.log ++ _) = _
  rw [List.filter_append]
  congr 1
  refine List.filter_eq_self.mpr fun x hx => ?_
  obtain ⟨i, e, -, rfl⟩ := Batch.mem_numberFrom hx
  exact beq_self_eq_true stream

theorem events_extend_of_ne (l : Ledger) {stream other : String} (h : stream ≠ other)
    (batch : List Event) : (l.extend stream batch).events other = l.events other := by
  show List.filter _ (l.log ++ _) = _
  rw [List.filter_append]
  have hnone : (Batch.numberFrom stream (l.version stream + 1) batch).filter
      (·.stream == other) = [] := by
    refine List.filter_eq_nil_iff.mpr fun x hx => ?_
    obtain ⟨i, e, -, rfl⟩ := Batch.mem_numberFrom hx
    simpa [Batch.place] using h
  rw [hnone, List.append_nil]
  rfl

theorem version_extend (l : Ledger) (stream : String) (batch : List Event) :
    (l.extend stream batch).version stream = l.version stream + batch.length := by
  unfold version
  rw [events_extend_self, List.length_append, Batch.length_numberFrom]
  omega

theorem map_id_extend (l : Ledger) (stream : String) (batch : List Event) :
    (l.extend stream batch).log.map (·.id) = (l.log ++ batch).map (·.id) := by
  show (l.log ++ Batch.numberFrom ..).map _ = _
  rw [List.map_append, List.map_append, Batch.map_id_numberFrom]

@[simp] theorem extend_nil (l : Ledger) (stream : String) : l.extend stream [] = l := by
  show ({ l with log := l.log ++ [] } : Ledger) = l
  rw [List.append_nil]

/-- What appending does: it leaves the ledger, or it extends the stream whose version was named. -/
theorem append_cases (l : Ledger) (stream : String) (expected : Int) (batch : List Event) :
    (l.closed = false ∧ l.version stream = expected ∧
      l.append stream expected batch = (.ok (expected + batch.length), l.extend stream batch)) ∨
    ∃ f, l.append stream expected batch = (.error f, l) := by
  unfold append
  split
  · exact Or.inr ⟨_, rfl⟩
  rename_i hopen
  split
  · exact Or.inr ⟨_, rfl⟩
  rename_i hversion
  rcases Batch.stamp_cases stream expected batch with hs | ⟨f, hs⟩
  · exact Or.inl ⟨by simpa using hopen, Decidable.not_not.mp hversion, by rw [hs]⟩
  · exact Or.inr ⟨f, by rw [hs]⟩

/-! ### Versions -/

/-- The events of every stream have the versions 0, 1, 2 and so on. -/
def Numbered (l : Ledger) : Prop :=
  ∀ (stream : String) (i : Nat) (e : Event), (l.events stream)[i]? = some e → e.version = i

theorem numbered_empty : Numbered empty := by
  intro stream i e h
  simp [events, empty] at h

theorem Numbered.extend (h : l.Numbered) (stream : String) (batch : List Event) :
    (l.extend stream batch).Numbered := by
  intro other i e hi
  by_cases hs : stream = other
  · rw [← hs, events_extend_self] at hi
    by_cases hlt : i < (l.events stream).length
    · rw [List.getElem?_append_left hlt] at hi
      exact h stream i e hi
    · rw [List.getElem?_append_right (Nat.le_of_not_lt hlt), Batch.getElem?_numberFrom] at hi
      obtain ⟨x, -, rfl⟩ := Option.map_eq_some_iff.mp hi
      show l.version stream + 1 + ((i - (l.events stream).length : Nat) : Int) = i
      unfold version
      omega
  · rw [events_extend_of_ne l hs] at hi
    exact h other i e hi

theorem Numbered.append (h : l.Numbered) (stream : String) (expected : Int) (batch : List Event) :
    (l.append stream expected batch).2.Numbered := by
  rcases l.append_cases stream expected batch with ⟨-, -, heq⟩ | ⟨f, heq⟩
  · rw [heq]
    exact h.extend stream batch
  · rw [heq]
    exact h

end Ledger

end EventNet
