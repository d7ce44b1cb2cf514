import EventNet.Proofs.Store.Backends

/-!
How a stream reads after an append.

Nothing is assumed here of the store or of the batch: rows may have been changed by others, identities
may be taken, and texts may not read back as what was written.  A stream reads as it did before, or it
reads as before with the store's echo of the batch behind it.  The echo of a store in memory is the batch
itself; that of a database is what it reads from the rows of the batch, if it can read them.
-/

namespace EventNet

namespace EventRow

theorem toEvents_append (xs ys : List EventRow) :
    toEvents (xs ++ ys) = (toEvents xs).bind fun events => (toEvents ys).map (events ++ ·) := by
  induction xs with
  | nil =>
      show toEvents ys = (toEvents ys).map ([] ++ ·)
      cases toEvents ys <;> rfl
  | cons r rest ih =>
      rw [List.cons_append, toEvents, toEvents, ih]
      cases r.toEvent with
      | error f => rfl
      | ok e =>
          cases toEvents rest with
          | error f => rfl
          | ok events => cases toEvents ys <;> rfl

theorem of_toEvent {r : EventRow} {e : Event} (h : r.toEvent = .ok e) :
    e.type = r.type ∧ e.version = r.version := by
  unfold toEvent at h
  split at h
  · cases h
  split at h
  · cases h
  split at h
  · cases h
  split at h
  · cases h
  · cases h
    exact ⟨rfl, rfl⟩

/-- What can be told of every row that is read can be told of all rows that are read. -/
theorem map_of_toEvents {α : Type} {f : Event → α} {g : EventRow → α}
    (hfg : ∀ r e, toEvent r = .ok e → f e = g r) {rows : List EventRow} {events : List Event}
    (h : toEvents rows = .ok events) : events.map f = rows.map g := by
  induction rows generalizing events with
  | nil =>
      cases h
      rfl
  | cons r rest ih =>
      rw [toEvents] at h
      cases hr : r.toEvent with
      | error f =>
          rw [hr] at h
          cases h
      | ok e =>
          cases hrest : toEvents rest with
          | error f =>
              rw [hr, hrest] at h
              cases h
          | ok later =>
              rw [hr, hrest] at h
              cases h
              rw [List.map_cons, List.map_cons, ih hrest, hfg r e hr]

end EventRow

/-- A batch at the end of a stream, where the stream has no other versions from 0 on. -/
theorem Tables.read_append_rows (t : Tables) (stream : String) {version : Int} {batch : List Event}
    (hversion : batch ≠ [] → 0 ≤ version) :
    Tables.read { t with events := t.events ++
        (Batch.numberFrom stream version batch).map EventRow.ofEvent } stream 0 =
      (t.read stream 0).bind fun events =>
        (EventRow.toEvents ((Batch.numberFrom stream version batch).map EventRow.ofEvent)).map
          (events ++ ·) := by
  have hstream : ((Batch.numberFrom stream version batch).map EventRow.ofEvent).filter
      (·.stream == stream) = (Batch.numberFrom stream version batch).map EventRow.ofEvent := by
    refine List.filter_eq_self.mpr fun r hr => ?_
    obtain ⟨x, hx, rfl⟩ := List.mem_map.mp hr
    exact beq_iff_eq.mpr (Batch.stream_of_numberFrom x hx)
  have hstart : ((Batch.numberFrom stream version batch).map EventRow.ofEvent).filter
      (fun r => decide (max (0 : Int) 0 ≤ r.version)) =
        (Batch.numberFrom stream version batch).map EventRow.ofEvent := by
    refine List.filter_eq_self.mpr fun r hr => ?_
    obtain ⟨x, hx, rfl⟩ := List.mem_map.mp hr
    obtain ⟨i, e, he, rfl⟩ := Batch.mem_numberFrom hx
    have hnonneg := hversion (List.ne_nil_of_mem (List.mem_of_getElem? he))
    refine decide_eq_true ?_
    show max (0 : Int) 0 ≤ version + i
    omega
  unfold Tables.read Tables.streamRows
  dsimp only
  rw [List.filter_append, hstream, List.filter_append, hstart, EventRow.toEvents_append]

namespace Store

/-- How a store reads events that it was given. -/
def echo : Store → List Event → Except Fault (List Event)
  | .memory _, events => .ok events
  | .database .., events => EventRow.toEvents (events.map EventRow.ofEvent)

theorem types_of_echo {s : Store} {events echoed : List Event} (h : s.echo events = .ok echoed) :
    echoed.map (·.type) = events.map (·.type) := by
  cases s with
  | memory m =>
      cases h
      rfl
  | database c db =>
      rw [EventRow.map_of_toEvents (fun r e hr => (EventRow.of_toEvent hr).1) h, List.map_map]
      rfl

/-- A refused batch changes nothing that is read; any other is read behind its stream. -/
theorem read_append (s : Store) (stream : String) (expected : Int) (batch : List Event) :
    (∃ f, (s.append stream expected batch).value.1 = .error f ∧
      ∀ id start, ((s.append stream expected batch).value.2.read id start).value.1 =
        (s.read id start).value.1) ∨
    ∃ v, (s.append stream expected batch).value.1 = .ok v ∧
      ((s.append stream expected batch).value.2.read stream 0).value.1 =
        (s.read stream 0).value.1.bind fun events =>
          (s.echo (Batch.numberFrom stream (expected + 1) batch)).map (events ++ ·) := by
  cases s with
  | memory m =>
      obtain ⟨hanswer, hledger⟩ := m.append_ledger stream expected batch
      have hread : ∀ (m : MemoryStore) id start,
          ((memory m).read id start).value.1 = m.ledger.read id start := fun m id start =>
        (Holds.read (s := memory m) rfl id start).1
      show (∃ f, (m.append stream expected batch).value.1 = .error f ∧ ∀ id start,
          ((memory (m.append stream expected batch).value.2).read id start).value.1 = _) ∨
        ∃ v, (m.append stream expected batch).value.1 = .ok v ∧
          ((memory (m.append stream expected batch).value.2).read stream 0).value.1 = _
      simp only [hread, hanswer, hledger]
      rcases m.ledger.append_cases stream expected batch with ⟨hopen, hversion, heq⟩ | ⟨f, heq⟩
      · rw [heq]
        refine Or.inr ⟨_, rfl, ?_⟩
        have hopen' : (m.ledger.extend stream batch).closed = false := hopen
        rw [Ledger.read, Ledger.read, Ledger.answer_open hopen, Ledger.answer_open hopen',
          Ledger.events_extend_self, hversion]
        rfl
      · rw [heq]
        exact Or.inl ⟨f, rfl, fun _ _ => rfl⟩
  | database c db =>
      show (∃ f, (c.append db stream expected batch).value.1 = .error f ∧ ∀ id start,
          ((c.append db stream expected batch).value.2.1.read
            (c.append db stream expected batch).value.2.2 id start).value = _) ∨
        ∃ v, (c.append db stream expected batch).value.1 = .ok v ∧
          ((c.append db stream expected batch).value.2.1.read
            (c.append db stream expected batch).value.2.2 stream 0).value = _
      rcases c.append_cases db stream expected batch with
        ⟨f, heq⟩ | ⟨t, t', v, htables, happended, hanswer, htables'⟩
      · rw [heq]
        exact Or.inl ⟨f, rfl, fun _ _ => rfl⟩
      · refine Or.inr ⟨v, hanswer, ?_⟩
        have hread : ∀ {c : Connection} {db : Database} {t : Tables}, c.tables db = .ok t →
            (c.read db stream 0).value = t.read stream 0 := fun h =>
          Connection.ask_of_reached h _
        obtain ⟨-, ht', hexpected⟩ := Connection.of_appended happended
        rw [hread htables', ht', Tables.read_append_rows t stream fun hne => ?_]
        · show _ = (c.read db stream 0).value.bind _
          rw [hread htables]
          rfl
        · have := hexpected hne
          unfold noStream at this
          omega

end Store

end EventNet
