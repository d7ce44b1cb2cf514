import EventNet.Proofs.Store.Echo

/-!
What a store lists, whether or not it can be read back.

A store lists a ledger when its events and saved states stand where those of the ledger stand: in the
same streams, with the same versions.  What is in them plays no part.  Rows may be unreadable, and then
a call that reads them fails, but what is answered has the versions that the ledger has.
-/

namespace EventNet

theorem Ledger.of_answer {α : Type} {l : Ledger} {a b : α} (h : l.answer a = .ok b) : a = b := by
  unfold answer at h
  split at h
  · cases h
  · exact Except.ok.inj h

/-- What a connection is told, it is told by tables. -/
theorem Connection.of_ask {α : Type} {c : Connection} {db : Database}
    {question : Tables → Except Fault α} {a : α} (h : (c.ask db question).value = .ok a) :
    ∃ t, db.tables = some t ∧ question t = .ok a := by
  cases ht : c.tables db with
  | error f =>
      unfold ask at h
      rw [ht] at h
      cases h
  | ok t => exact ⟨t, tables_some ht, (ask_of_reached ht question).symm.trans h⟩

/-- Tables accept a batch at the version of the stream only. -/
theorem Connection.versions_of_appended {t t' : Tables} {stream : String} {expected v : Int}
    {batch stamped : List Event} (h : appended t stream expected batch = .ok (v, t', stamped)) :
    t.currentVersion stream = expected ∧ v = expected + batch.length := by
  have hstamped := (of_appended h).1
  unfold appended at h
  dsimp only at h
  split at h
  · cases h
  rename_i hexpected
  have hexpected := Decidable.not_not.mp hexpected
  split at h
  · rename_i hempty
    cases h
    obtain rfl := List.isEmpty_iff.mp hempty
    exact ⟨hexpected, hexpected.symm ▸ (Int.add_zero _).symm⟩
  split at h
  · cases h
  split at h
  · cases h
  · cases h
  · cases h
    rw [hstamped, Batch.length_numberFrom]
    exact ⟨hexpected, rfl⟩

namespace Tables

variable {t : Tables} {l : Ledger} {stream : String} {expected v : Int} {batch stamped : List Event}
  {t' : Tables}

/-- A batch that tables accept is listed behind its stream. -/
theorem Lists.appended (h : t.Lists l)
    (happended : Connection.appended t stream expected batch = .ok (v, t', stamped)) :
    l.version stream = expected ∧ v = expected + batch.length ∧ t'.Lists (l.extend stream batch) ∧
      t'.snapshots = t.snapshots := by
  obtain ⟨hversion, rfl⟩ := Connection.versions_of_appended happended
  rw [h.currentVersion] at hversion
  subst hversion
  obtain ⟨rfl, rfl, -⟩ := Connection.of_appended happended
  refine ⟨rfl, rfl, ⟨?_, h.numbered.extend stream batch⟩, rfl⟩
  dsimp only
  rw [h.events, ← List.map_append]
  rfl

/-- What tables read has the versions of events of the stream. -/
theorem Lists.versions_of_read (h : t.Lists l) {start : Int} {events : List Event}
    (hread : t.read stream start = .ok events) {e : Event} (he : e ∈ events) :
    ∃ x ∈ l.events stream, x.version = e.version := by
  have hversions := EventRow.map_of_toEvents (fun r e hr => (EventRow.of_toEvent hr).2) hread
  obtain ⟨r, hr, hversion⟩ := List.mem_map.mp (hversions ▸ List.mem_map_of_mem he)
  have hrow := (List.mem_filter.mp hr).1
  rw [h.streamRows] at hrow
  obtain ⟨x, hx, rfl⟩ := List.mem_map.mp hrow
  exact ⟨x, hx, hversion⟩

/-- A saved state that is read has the version of its row. -/
theorem version_of_loadSnapshot {x : StateSnapshot} (h : t.loadSnapshot stream = .ok (some x)) :
    (t.snapshots.get? stream).map (·.version) = some x.version := by
  unfold loadSnapshot at h
  split at h
  · cases h
  · rename_i r hr
    rw [hr]
    unfold SnapshotRow.toSnapshot at h
    split at h
    · cases h
    · cases hcreated : instantOfMicros r.createdAt with
      | error f =>
          rw [hcreated] at h
          cases h
      | ok createdAt =>
          rw [hcreated] at h
          cases h
          rfl

end Tables

namespace Store

/-- The rows of all events in the order of their appending.  Those of a store in memory are the rows
that its events would have. -/
def rows : Store → List EventRow
  | .memory m => m.log.events.map EventRow.ofEvent
  | .database _ db => (db.tables.map (·.events)).getD []

/-- How many events a stream has. -/
def size (s : Store) (id : String) : Nat :=
  (s.rows.filter (·.stream == id)).length

/-- The events and saved states of a store stand where those of a ledger stand. -/
def Lists : Store → Ledger → Prop
  | .memory m, l => m.ledger = l
  | .database _ db, l => ∃ t, db.tables = some t ∧ t.Lists l ∧
      ∀ id, (t.snapshots.get? id).map (·.version) = (l.snapshots.get? id).map (·.version)

variable {s : Store} {l : Ledger}

theorem Lists.rows (h : s.Lists l) : s.rows = l.log.map EventRow.ofEvent := by
  cases s with
  | memory m =>
      obtain rfl := h
      rfl
  | database c db =>
      obtain ⟨t, ht, hlists, -⟩ := h
      show (db.tables.map _).getD [] = _
      rw [ht]
      exact hlists.events

theorem Lists.size (h : s.Lists l) (id : String) : s.size id = (l.events id).length := by
  unfold Store.size
  rw [h.rows, List.filter_map, List.length_map]
  rfl

/-- What a store holds, it lists. -/
theorem Holds.lists (h : s.Holds l) : s.Lists l := by
  cases s with
  | memory m => exact h
  | database c db =>
      obtain ⟨t, ht, hholds⟩ := Connection.Holds.tables h
      refine ⟨t, ht, hholds.lists, fun id => ?_⟩
      rw [hholds.snapshots, Dict.get?_mapValues, Option.map_map]
      rfl

/-! ### Calls -/

/-- Whatever is in a store, a batch that it accepts is numbered and stands behind all rows, and one that
it refuses adds no rows. -/
theorem rows_append (s : Store) (stream : String) (expected : Int) (batch : List Event) :
    ((s.append stream expected batch).value.1 = .ok (expected + batch.length) ∧
      (s.append stream expected batch).value.2.rows =
        s.rows ++ (Batch.numberFrom stream (expected + 1) batch).map EventRow.ofEvent) ∨
    (∃ f, (s.append stream expected batch).value.1 = .error f) ∧
      (s.append stream expected batch).value.2.rows = s.rows := by
  cases s with
  | memory m =>
      obtain ⟨hanswer, hledger⟩ := m.append_ledger stream expected batch
      have hlog := congrArg Ledger.log hledger
      show ((m.append stream expected batch).value.1 = _ ∧
          (m.append stream expected batch).value.2.ledger.log.map EventRow.ofEvent = _) ∨
        (∃ f, (m.append stream expected batch).value.1 = _) ∧
          (m.append stream expected batch).value.2.ledger.log.map EventRow.ofEvent = _
      rw [hanswer, hlog]
      rcases m.ledger.append_cases stream expected batch with ⟨-, rfl, heq⟩ | ⟨f, heq⟩
      · rw [heq]
        exact Or.inl ⟨rfl, List.map_append⟩
      · rw [heq]
        exact Or.inr ⟨⟨f, rfl⟩, rfl⟩
  | database c db =>
      show ((c.append db stream expected batch).value.1 = _ ∧
          ((c.append db stream expected batch).value.2.2.tables.map (·.events)).getD [] =
            (db.tables.map (·.events)).getD [] ++ _) ∨
        (∃ f, (c.append db stream expected batch).value.1 = _) ∧
          ((c.append db stream expected batch).value.2.2.tables.map (·.events)).getD [] =
            (db.tables.map (·.events)).getD []
      rcases c.append_cases db stream expected batch with
        ⟨f, heq⟩ | ⟨t, t', v, htables, happended, hanswer, htables'⟩
      · rw [heq]
        exact Or.inr ⟨⟨f, rfl⟩, rfl⟩
      · obtain ⟨-, rfl⟩ := Connection.versions_of_appended happended
        obtain ⟨-, rfl, -⟩ := Connection.of_appended happended
        rw [Connection.tables_some htables, Connection.tables_some htables']
        exact Or.inl ⟨hanswer, rfl⟩

theorem rows_saveSnapshot (s : Store) (x : StateSnapshot) :
    (s.saveSnapshot x).value.2.rows = s.rows := by
  cases s with
  | memory m =>
      obtain ⟨-, hledger⟩ := m.saveSnapshot_ledger x
      show (m.saveSnapshot x).value.2.ledger.log.map EventRow.ofEvent = _
      rw [hledger]
      unfold Ledger.saveSnapshot
      dsimp only
      split <;> rfl
  | database c db =>
      show ((c.saveSnapshot db x).value.2.tables.map (·.events)).getD [] =
        (db.tables.map (·.events)).getD []
      unfold Connection.saveSnapshot
      cases htables : c.tables db with
      | error f => rfl
      | ok t =>
          rw [Connection.tables_some htables]
          rfl

/-- A store that lists a ledger has accepted a batch at the version of the stream, or has refused it. -/
theorem Lists.append (h : s.Lists l) (stream : String) (expected : Int) (batch : List Event) :
    (l.version stream = expected ∧
      (s.append stream expected batch).value.1 = .ok (expected + batch.length) ∧
      (s.append stream expected batch).value.2.Lists (l.extend stream batch)) ∨
    (∃ f, (s.append stream expected batch).value.1 = .error f) ∧
      (s.append stream expected batch).value.2.Lists l := by
  cases s with
  | memory m =>
      obtain rfl := h
      obtain ⟨hanswer, hledger⟩ := m.append_ledger stream expected batch
      show (_ ∧ (m.append stream expected batch).value.1 = _ ∧
        (m.append stream expected batch).value.2.ledger = _) ∨
        (∃ f, (m.append stream expected batch).value.1 = _) ∧
          (m.append stream expected batch).value.2.ledger = _
      rw [hanswer, hledger]
      rcases m.ledger.append_cases stream expected batch with ⟨-, hversion, heq⟩ | ⟨f, heq⟩
      · rw [heq]
        exact Or.inl ⟨hversion, rfl, rfl⟩
      · rw [heq]
        exact Or.inr ⟨⟨f, rfl⟩, rfl⟩
  | database c db =>
      obtain ⟨t, ht, hlists, hsaved⟩ := h
      show (_ ∧ (c.append db stream expected batch).value.1 = _ ∧
        (database (c.append db stream expected batch).value.2.1
          (c.append db stream expected batch).value.2.2).Lists _) ∨
        (∃ f, (c.append db stream expected batch).value.1 = _) ∧
          (database (c.append db stream expected batch).value.2.1
            (c.append db stream expected batch).value.2.2).Lists l
      rcases c.append_cases db stream expected batch with
        ⟨f, heq⟩ | ⟨t₀, t', v, htables, happended, hanswer, htables'⟩
      · rw [heq]
        exact Or.inr ⟨⟨f, rfl⟩, t, ht, hlists, hsaved⟩
      · obtain rfl : t = t₀ := Option.some.inj (ht.symm.trans (Connection.tables_some htables))
        obtain ⟨hversion, rfl, hlists', hsame⟩ := hlists.appended happended
        exact Or.inl ⟨hversion, hanswer, t', Connection.tables_some htables', hlists', hsame ▸ hsaved⟩

/-- What is read has the versions of events of the stream. -/
theorem Lists.read (h : s.Lists l) (stream : String) (start : Int) :
    (∀ events, (s.read stream start).value.1 = .ok events →
      ∀ e ∈ events, ∃ x ∈ l.events stream, x.version = e.version) ∧
    (s.read stream start).value.2.Lists l := by
  cases s with
  | memory m =>
      refine ⟨fun events hread e he => ⟨e, ?_, rfl⟩, h⟩
      rw [(Holds.read (s := .memory m) h stream start).1] at hread
      obtain rfl := Ledger.of_answer hread
      exact List.mem_of_mem_drop he
  | database c db =>
      refine ⟨fun events hread e he => ?_, h⟩
      obtain ⟨t, ht, hlists, -⟩ := h
      obtain ⟨t₀, ht₀, hrows⟩ := Connection.of_ask hread
      obtain rfl := Option.some.inj (ht.symm.trans ht₀)
      exact hlists.versions_of_read hrows he

/-- A saved state that is loaded has the version of the one that the ledger has. -/
theorem Lists.loadSnapshot (h : s.Lists l) (stream : String) :
    (∀ x, (s.loadSnapshot stream).value.1 = .ok (some x) →
      ∃ y, l.snapshots.get? stream = some y ∧ y.version = x.version) ∧
    (s.loadSnapshot stream).value.2.Lists l := by
  cases s with
  | memory m =>
      refine ⟨fun x hload => ⟨x, ?_, rfl⟩, h⟩
      rw [(Holds.loadSnapshot (s := .memory m) h stream).1] at hload
      exact Ledger.of_answer hload
  | database c db =>
      refine ⟨fun x hload => ?_, h⟩
      obtain ⟨t, ht, -, hsaved⟩ := h
      obtain ⟨t₀, ht₀, hrow⟩ := Connection.of_ask hload
      obtain rfl := Option.some.inj (ht.symm.trans ht₀)
      have hversion := Tables.version_of_loadSnapshot hrow
      rw [hsaved stream] at hversion
      exact Option.map_eq_some_iff.mp hversion

/-- The version of a stream is one less than the number of its events. -/
theorem Lists.streamVersion (h : s.Lists l) {stream : String} {v : Int}
    (hv : (s.streamVersion stream).value.1 = .ok v) : v = (s.size stream : Int) - 1 := by
  rw [h.size]
  cases s with
  | memory m =>
      rw [(Holds.streamVersion (s := .memory m) h stream).1] at hv
      exact (Ledger.of_answer hv).symm
  | database c db =>
      obtain ⟨t, ht, hlists, -⟩ := h
      obtain ⟨t₀, ht₀, hversion⟩ := Connection.of_ask hv
      obtain rfl := Option.some.inj (ht.symm.trans ht₀)
      exact (Except.ok.inj hversion).symm.trans (hlists.currentVersion stream)

/-- A state is saved, or nothing changes. -/
theorem Lists.saveSnapshot (h : s.Lists l) (x : StateSnapshot) :
    (s.saveSnapshot x).value.2.Lists { l with snapshots := l.snapshots.insert x.stream x } ∨
      (s.saveSnapshot x).value.2.Lists l := by
  cases s with
  | memory m =>
      obtain rfl := h
      obtain ⟨-, hledger⟩ := m.saveSnapshot_ledger x
      show (m.saveSnapshot x).value.2.ledger = _ ∨ (m.saveSnapshot x).value.2.ledger = _
      rw [hledger]
      unfold Ledger.saveSnapshot
      dsimp only
      split
      · exact Or.inr rfl
      · exact Or.inl rfl
  | database c db =>
      obtain ⟨t, ht, hlists, hsaved⟩ := h
      show (waited c (c.saveSnapshot db x).value.2).Lists _ ∨
        (waited c (c.saveSnapshot db x).value.2).Lists l
      unfold Connection.saveSnapshot
      cases htables : c.tables db with
      | error f => exact Or.inr ⟨t, ht, hlists, hsaved⟩
      | ok t₀ =>
          obtain rfl : t = t₀ := Option.some.inj (ht.symm.trans (Connection.tables_some htables))
          refine Or.inl ⟨_, rfl, ⟨hlists.events, hlists.numbered⟩, fun id => ?_⟩
          show (((t.snapshots.insert x.stream (.ofSnapshot x)).get? id).map (·.version)) =
            ((l.snapshots.insert x.stream x).get? id).map (·.version)
          by_cases hid : x.stream = id
          · rw [hid, Dict.get?_insert_self, Dict.get?_insert_self]
            rfl
          · rw [Dict.get?_insert_of_ne _ _ hid, Dict.get?_insert_of_ne _ _ hid, hsaved]

end Store

end EventNet
