import EventNet.Proofs.Dict
import EventNet.Proofs.Event.Stored
import EventNet.Proofs.Store.Ledger
import EventNet.Proofs.Store.Log
import EventNet.Store.Basic

/-!
Both kinds of stores answer as the ledger they hold.

A store in memory holds the ledger of its own fields.  A database holds a ledger when its rows are
the rows of the ledger's events and saved states, and these lose nothing in rows.  For each operation
one lemma says that a store that holds a ledger answers what the ledger answers and then holds what
becomes of it.  Two stores that hold one ledger, whatever their kinds, therefore cannot be told apart
by their answers.
-/

namespace EventNet

/-! ### The store in memory -/

namespace MemoryStore

/-- The contents of a store in memory. -/
def ledger (s : MemoryStore) : Ledger :=
  ⟨s.log.events, s.snapshots, s.closed⟩

theorem append_ledger (s : MemoryStore) (stream : String) (expected : Int) (batch : List Event) :
    (s.append stream expected batch).value.1 = (s.ledger.append stream expected batch).1 ∧
      (s.append stream expected batch).value.2.ledger =
        (s.ledger.append stream expected batch).2 := by
  have hversion : s.log.version stream = s.ledger.version stream := s.log.version_eq stream
  unfold append Ledger.append
  rw [hversion]
  by_cases hc : s.closed = true
  · rw [if_pos hc, if_pos (show s.ledger.closed = true from hc)]
    exact ⟨rfl, rfl⟩
  rw [if_neg hc, if_neg (show ¬ s.ledger.closed = true from hc)]
  by_cases hv : s.ledger.version stream = expected
  · subst hv
    simp only [ne_eq, not_true_eq_false, if_false]
    cases batch with
    | nil =>
        simp only [List.isEmpty_nil, if_true]
        rw [Batch.stamp_nil (s.ledger.noStream_le_version stream), Ledger.extend_nil]
        exact ⟨(Int.add_zero _).symm ▸ rfl, rfl⟩
    | cons e rest =>
        simp only [List.isEmpty_cons, Bool.false_eq_true, if_false]
        split
        · rename_i f hs
          rw [hs]
          exact ⟨rfl, rfl⟩
        · rename_i stamped hs
          rcases Batch.stamp_cases stream (s.ledger.version stream) (e :: rest) with hn | ⟨f, hf⟩
          · obtain rfl := Except.ok.inj (hs.symm.trans hn)
            have hextended := s.log.version_extend stream (Batch.stream_of_stamp hs)
            rw [hversion, Batch.length_numberFrom] at hextended
            simp only [Traced.value_bind, Traced.value_pure, hs]
            exact ⟨congrArg Except.ok hextended, rfl⟩
          · cases hs.symm.trans hf
  · simp only [ne_eq, hv, not_false_eq_true, if_true]
    exact ⟨rfl, rfl⟩

theorem whenOpen_value {α : Type} (s : MemoryStore) (a : α) :
    (s.whenOpen a).value = s.ledger.answer a := by
  show (if s.closed then _ else _ : Traced _).value = if s.closed then _ else _
  split <;> rfl

theorem saveSnapshot_ledger (s : MemoryStore) (snapshot : StateSnapshot) :
    (s.saveSnapshot snapshot).value.1 = (s.ledger.saveSnapshot snapshot).1 ∧
      (s.saveSnapshot snapshot).value.2.ledger = (s.ledger.saveSnapshot snapshot).2 := by
  unfold saveSnapshot
  by_cases hc : s.closed = true
  · rw [if_pos hc, Ledger.saveSnapshot_closed (l := s.ledger) hc]
    exact ⟨rfl, rfl⟩
  · have hopen : s.ledger.closed = false := eq_false_of_ne_true hc
    rw [if_neg hc, Ledger.saveSnapshot_open hopen]
    exact ⟨rfl, rfl⟩

theorem deleteSnapshot_ledger (s : MemoryStore) (stream : String) :
    (s.deleteSnapshot stream).value.1 = (s.ledger.deleteSnapshot stream).1 ∧
      (s.deleteSnapshot stream).value.2.ledger = (s.ledger.deleteSnapshot stream).2 := by
  unfold deleteSnapshot
  by_cases hc : s.closed = true
  · rw [if_pos hc, Ledger.deleteSnapshot_closed (l := s.ledger) hc]
    exact ⟨rfl, rfl⟩
  · have hopen : s.ledger.closed = false := eq_false_of_ne_true hc
    rw [if_neg hc, Ledger.deleteSnapshot_open hopen]
    exact ⟨rfl, rfl⟩

theorem close_ledger (s : MemoryStore) : s.close.value.ledger = s.ledger.close := by
  unfold close
  by_cases hc : s.closed = true
  · rw [if_pos hc]
    show (⟨s.log.events, s.snapshots, s.closed⟩ : Ledger) = ⟨s.log.events, s.snapshots, true⟩
    rw [hc]
  · rw [if_neg hc]
    rfl

end MemoryStore

/-! ### Versions in tables -/

section Versions

variable {es : List Event}

/-- The greatest of the versions 0, 1, 2 and so on is one less than their number. -/
private theorem max?_versions
    (h : ∀ (i : Nat) (e : Event), es[i]? = some e → e.version = i) :
    (es.map (·.version)).max?.getD noStream = es.length - 1 := by
  cases hlen : es.length with
  | zero =>
      rw [List.length_eq_zero_iff.mp hlen]
      rfl
  | succ n =>
      have hlast : ∃ e, es[n]? = some e := ⟨_, List.getElem?_eq_getElem (by omega)⟩
      obtain ⟨e, he⟩ := hlast
      have hmax : (es.map (·.version)).max? = some (n : Int) := by
        refine List.max?_eq_some_iff.mpr ⟨?_, fun v hv => ?_⟩
        · exact List.mem_map.mpr ⟨e, List.mem_of_getElem? he, h n e he⟩
        · obtain ⟨x, hx, rfl⟩ := List.mem_map.mp hv
          obtain ⟨i, hi⟩ := List.mem_iff_getElem?.mp hx
          have hlt : i < es.length := (List.getElem?_eq_some_iff.mp hi).1
          rw [h i x hi]
          omega
      rw [hmax, Option.getD_some]
      omega

/-- Of consecutive versions those from one on are what is left after dropping. -/
private theorem filter_versions (base k : Nat)
    (h : ∀ (i : Nat) (e : Event), es[i]? = some e → e.version = (base + i : Nat)) :
    es.filter (fun e => decide ((k : Int) ≤ e.version)) = es.drop (k - base) := by
  induction es generalizing base with
  | nil => simp
  | cons e rest ih =>
      have he : e.version = base := h 0 e rfl
      have hrest := ih (base + 1) fun i x hx => by
        rw [h (i + 1) x hx]
        omega
      rw [List.filter_cons, he]
      by_cases hk : k ≤ base
      · rw [if_pos (by simpa using hk), hrest, show k - (base + 1) = 0 by omega,
          show k - base = 0 by omega]
        rfl
      · rw [if_neg (by simpa using hk), hrest, show k - base = (k - (base + 1)) + 1 by omega,
          List.drop_succ_cons]

end Versions

/-- Two events that can stand in one table. -/
def Event.Apart (a b : Event) : Prop :=
  a.id.text ≠ b.id.text ∧ ¬ (a.stream = b.stream ∧ a.version = b.version)

namespace Ledger

variable {l : Ledger}

/-- The versions of a stream ascend along the log. -/
theorem Numbered.ascending (h : l.Numbered) :
    l.log.Pairwise fun a b => a.stream = b.stream → a.version < b.version := by
  rw [List.pairwise_iff_getElem]
  intro i j hi hj hij hstream
  have hlt : (l.events l.log[i].stream).Pairwise fun a b => a.version < b.version := by
    rw [List.pairwise_iff_getElem]
    intro m n hm hn hmn
    rw [h _ m _ (List.getElem?_eq_getElem hm), h _ n _ (List.getElem?_eq_getElem hn)]
    omega
  exact (List.pairwise_iff_getElem.mp (List.pairwise_filter.mp hlt)) i j hi hj hij
    (by simp) (by simp [hstream])

/-- Events of one stream have different versions. -/
theorem Numbered.pairwise (h : l.Numbered) :
    l.log.Pairwise fun a b => ¬ (a.stream = b.stream ∧ a.version = b.version) :=
  h.ascending.imp fun hlt ⟨hstream, hversion⟩ => Int.ne_of_lt (hlt hstream) hversion

end Ledger

theorem Event.Storable.place {e : Event} (h : e.Storable) (stream : String) (version : Int) :
    (Batch.place stream version e).Storable :=
  ⟨h.id, h.time.toMicrosecond, h.data, h.metadata⟩

theorem EventFilter.mem_of_mem_cut {f : EventFilter} {events : List Event} {e : Event}
    (h : e ∈ f.cut events) : e ∈ events := by
  unfold cut at h
  cases hlimit : f.limit with
  | none => rwa [hlimit] at h
  | some n =>
      rw [hlimit] at h
      exact List.mem_of_mem_take h

/-! ### Tables -/

/-- Tables with the rows of a ledger's events, whether or not they can be read back. -/
structure Tables.Lists (t : Tables) (l : Ledger) : Prop where
  events : t.events = l.log.map EventRow.ofEvent
  numbered : l.Numbered

/-- Tables with the rows of a ledger, which lose nothing. -/
structure Tables.Holds (t : Tables) (l : Ledger) : Prop where
  events : t.events = l.log.map EventRow.ofEvent
  snapshots : t.snapshots = l.snapshots.mapValues SnapshotRow.ofSnapshot
  refused : t.refusedTypes = []
  stored : ∀ e ∈ l.log, e.Stored
  saved : ∀ p ∈ l.snapshots, p.2.Stored ∧ p.2.stream = p.1
  numbered : l.Numbered

namespace Tables

variable {t : Tables} {l : Ledger}

theorem Lists.streamRows (h : t.Lists l) (stream : String) :
    t.streamRows stream = (l.events stream).map EventRow.ofEvent := by
  unfold Tables.streamRows
  rw [h.events, List.filter_map]
  rfl

theorem Lists.currentVersion (h : t.Lists l) (stream : String) :
    t.currentVersion stream = l.version stream := by
  unfold Tables.currentVersion
  rw [h.streamRows, List.map_map]
  exact max?_versions (h.numbered stream)

theorem Holds.lists (h : t.Holds l) : t.Lists l :=
  ⟨h.events, h.numbered⟩

theorem Holds.read (h : t.Holds l) (stream : String) (start : Int) :
    t.read stream start = .ok ((l.events stream).drop start.toNat) := by
  have hfilter : (t.streamRows stream).filter (fun r => decide (max start 0 ≤ r.version)) =
      ((l.events stream).drop start.toNat).map EventRow.ofEvent := by
    rw [h.lists.streamRows, List.filter_map]
    congr 1
    show (l.events stream).filter (fun e => decide (max start 0 ≤ e.version)) = _
    rw [show max start 0 = (start.toNat : Int) by omega, filter_versions 0 start.toNat
      fun i e he => by rw [h.numbered stream i e he]; omega]
    rfl
  unfold Tables.read
  rw [hfilter]
  refine EventRow.toEvents_map fun e he => h.stored e ?_
  exact (List.mem_filter.mp (List.mem_of_mem_drop he)).1

theorem passes_ofEvent {f : EventFilter} (hfrom : f.fromTime = none) (hto : f.toTime = none)
    (e : Event) : EventRow.passes f (.ofEvent e) = f.passes e := by
  unfold EventRow.passes EventFilter.passes
  rw [hfrom, hto]
  rfl

/-- What is selected from the rows of events. -/
theorem select_of_rows {log : List Event} (hrows : t.events = log.map EventRow.ofEvent)
    {f : EventFilter} {p : Event → Bool} (hp : ∀ e ∈ log, EventRow.passes f (.ofEvent e) = p e) :
    t.select f = (f.cut (log.filter p)).map EventRow.ofEvent := by
  have hfilter : t.events.filter (EventRow.passes f) = (log.filter p).map EventRow.ofEvent := by
    rw [hrows, List.filter_map]
    exact congrArg _ (List.filter_congr hp)
  unfold Tables.select EventFilter.cut
  rw [hfilter]
  cases f.limit with
  | none => rfl
  | some n => exact (List.map_take ..).symm

theorem Holds.readAll (h : t.Holds l) {f : EventFilter} (hfrom : f.fromTime = none)
    (hto : f.toTime = none) : t.readAll f = .ok (f.cut (l.log.filter f.passes)) := by
  unfold Tables.readAll
  rw [select_of_rows h.events fun e _ => passes_ofEvent hfrom hto e]
  refine EventRow.toEvents_map fun e he => h.stored e ?_
  exact (List.mem_filter.mp (EventFilter.mem_of_mem_cut he)).1

theorem Holds.loadSnapshot (h : t.Holds l) (stream : String) :
    t.loadSnapshot stream = .ok (l.snapshots.get? stream) := by
  unfold Tables.loadSnapshot
  rw [h.snapshots, Dict.get?_mapValues]
  cases hs : l.snapshots.get? stream with
  | none => rfl
  | some s =>
      obtain ⟨hstored, hstream⟩ := h.saved _ (Dict.mem_of_get? hs)
      simp only [Option.map_some]
      rw [← show s.stream = stream from hstream, SnapshotRow.toSnapshot_ofSnapshot hstored]
      rfl

theorem Holds.saveSnapshot (h : t.Holds l) {s : StateSnapshot} (hs : s.Stored) :
    (t.saveSnapshot s).Holds { l with snapshots := l.snapshots.insert s.stream s } where
  events := h.events
  snapshots := by
    show t.snapshots.insert s.stream (.ofSnapshot s) = _
    rw [h.snapshots, Dict.mapValues_insert]
  refused := h.refused
  stored := h.stored
  saved p hp := (Dict.mem_insert hp).elim (fun heq => heq ▸ ⟨hs, rfl⟩) (h.saved p)
  numbered := h.numbered

theorem Holds.deleteSnapshot (h : t.Holds l) (stream : String) :
    Holds { t with snapshots := t.snapshots.erase stream }
      { l with snapshots := l.snapshots.erase stream } where
  events := h.events
  snapshots := by
    show t.snapshots.erase stream = _
    rw [h.snapshots, Dict.mapValues_erase]
  refused := h.refused
  stored := h.stored
  saved p hp := h.saved p (Dict.mem_erase hp)
  numbered := h.numbered

/-! ### Inserting a batch -/

/-- Whether a row has the identity of an event, or its version in its stream. -/
def takes (r : EventRow) (e : Event) : Bool :=
  r.id == e.id.text || (r.stream == e.stream && r.version == e.version)

theorem insert_eq (hrefused : t.refusedTypes = []) (e : Event) :
    t.insert e = if t.events.any (takes · e) then .error .duplicate
      else .ok { t with events := t.events ++ [EventRow.ofEvent e] } := by
  unfold insert
  rw [hrefused]
  rfl

/-- Events that can all stand in one table are all inserted. -/
theorem insertAll_of_apart (hrefused : t.refusedTypes = []) (log : List Event)
    (hrows : t.events = log.map EventRow.ofEvent) {batch : List Event}
    (hapart : (log ++ batch).Pairwise Event.Apart) :
    t.insertAll batch = .ok { t with events := t.events ++ batch.map EventRow.ofEvent } := by
  induction batch generalizing t log with
  | nil => simp [insertAll]
  | cons e rest ih =>
      have hfree : ¬ t.events.any (takes · e) = true := by
        rw [Bool.not_eq_true, List.any_eq_false]
        intro r hr
        rw [hrows] at hr
        obtain ⟨x, hx, rfl⟩ := List.mem_map.mp hr
        obtain ⟨hid, hplace⟩ := (List.pairwise_append.mp hapart).2.2 x hx e List.mem_cons_self
        simpa [takes, EventRow.ofEvent, hid] using hplace
      rw [insertAll, insert_eq hrefused, if_neg hfree]
      have hrest := ih (t := { t with events := t.events ++ [EventRow.ofEvent e] }) hrefused
        (log ++ [e]) (by simp [hrows]) (by simpa using hapart)
      simpa using hrest

/-- A batch is inserted as a whole, or it holds an identity or a version that is taken. -/
theorem insertAll_cases (hrefused : t.refusedTypes = []) (batch : List Event) :
    t.insertAll batch = .ok { t with events := t.events ++ batch.map EventRow.ofEvent } ∨
      t.insertAll batch = .error .duplicate := by
  induction batch generalizing t with
  | nil => exact Or.inl (by simp [insertAll])
  | cons e rest ih =>
      rw [insertAll, insert_eq hrefused]
      by_cases htaken : t.events.any (takes · e) = true
      · rw [if_pos htaken]
        exact Or.inr rfl
      · rw [if_neg htaken]
        rcases ih (t := { t with events := t.events ++ [EventRow.ofEvent e] }) hrefused with h | h
        · exact Or.inl (by simpa using h)
        · exact Or.inr h

/-- A batch that is inserted is inserted as a whole. -/
theorem of_insertAll {t' : Tables} {batch : List Event} (h : t.insertAll batch = .ok t') :
    t' = { t with events := t.events ++ batch.map EventRow.ofEvent } := by
  induction batch generalizing t with
  | nil =>
      cases h
      simp
  | cons e rest ih =>
      rw [insertAll] at h
      split at h
      · cases h
      · rename_i t₁ hinsert
        unfold insert at hinsert
        dsimp only at hinsert
        split at hinsert
        · cases hinsert
        split at hinsert
        · cases hinsert
        · cases hinsert
          rw [ih h]
          simp

/-- Tables hold a ledger that is extended when they are given the rows of the batch. -/
theorem Holds.extend (h : t.Holds l) (stream : String) {batch : List Event}
    (hbatch : ∀ e ∈ batch, e.Storable) :
    Holds { t with events := t.events ++
        (Batch.numberFrom stream (l.version stream + 1) batch).map EventRow.ofEvent }
      (l.extend stream batch) where
  events := by
    show t.events ++ _ = (l.log ++ _).map EventRow.ofEvent
    rw [h.events, List.map_append]
  snapshots := h.snapshots
  refused := h.refused
  stored e he := by
    rcases List.mem_append.mp he with he | he
    · exact h.stored e he
    · obtain ⟨i, x, hx, rfl⟩ := Batch.mem_numberFrom he
      have hs := hbatch x (List.mem_of_getElem? hx)
      exact ⟨hs.place stream _, Instant.toMicrosecond_toMicrosecond _⟩
  saved := h.saved
  numbered := h.numbered.extend stream batch

end Tables

/-- The identities in a ledger and a batch are distinct. -/
def Ledger.Fresh (l : Ledger) (batch : List Event) : Prop :=
  ((l.log ++ batch).map (·.id)).Nodup

theorem Ledger.map_text_extend (l : Ledger) (stream : String) (batch : List Event) :
    (l.extend stream batch).log.map (·.id.text) = (l.log ++ batch).map (·.id.text) := by
  have htexts := congrArg (List.map EventId.text) (l.map_id_extend stream batch)
  rwa [List.map_map, List.map_map] at htexts

/-- A numbered batch can stand in one table with the ledger, if the identities are written
differently. -/
theorem Ledger.Numbered.apart {l : Ledger} (hn : l.Numbered) {batch : List Event}
    (htexts : ((l.log ++ batch).map (·.id.text)).Nodup) (stream : String) :
    (l.extend stream batch).log.Pairwise Event.Apart := by
  rw [← l.map_text_extend stream] at htexts
  have htext : (l.extend stream batch).log.Pairwise fun a b => a.id.text ≠ b.id.text :=
    List.pairwise_map.mp htexts
  exact htext.and (hn.extend stream batch).pairwise

/-- A numbered batch of fresh identities can stand in one table with the ledger. -/
theorem Ledger.Fresh.apart {l : Ledger} {batch : List Event} (h : l.Fresh batch)
    (stream : String) (hn : l.Numbered) (hids : ∀ e ∈ l.log ++ batch, e.id.bits < 2 ^ 128) :
    (l.extend stream batch).log.Pairwise Event.Apart := by
  refine hn.apart (List.pairwise_map.mpr ?_) stream
  exact (List.pairwise_map.mp h).imp_of_mem fun ha hb hab heq =>
    hab (EventId.text_injective (hids _ ha) (hids _ hb) heq)

/-! ### Connections -/

/-- An open connection to tables that hold a ledger, or a closed one. -/
structure Connection.Holds (c : Connection) (db : Database) (l : Ledger) : Prop where
  closed : c.closed = l.closed
  pool : l.closed = false → c.poolClosed = false
  tables : ∃ t, db.tables = some t ∧ t.Holds l

namespace Connection

variable {c : Connection} {db : Database} {l : Ledger}

/-- The tables are reached exactly as long as the ledger is open. -/
theorem Holds.reach (h : c.Holds db l) :
    (l.closed = true ∧ c.tables db = .error .storeClosed) ∨
      l.closed = false ∧ ∃ t, c.tables db = .ok t ∧ t.Holds l := by
  obtain ⟨t, ht, hl⟩ := h.tables
  unfold Connection.tables
  rw [h.closed]
  cases hc : l.closed with
  | true => exact Or.inl ⟨rfl, rfl⟩
  | false =>
      refine Or.inr ⟨rfl, t, ?_, hl⟩
      unfold Connection.reach
      simp [h.pool hc, ht]

/-- A question is answered by the tables that are reached. -/
theorem ask_of_reached {c : Connection} {db : Database} {t : Tables} {α : Type}
    (h : c.tables db = .ok t) (question : Tables → Except Fault α) :
    (c.ask db question).value = question t := by
  unfold ask
  rw [h]
  simp only [Except.bind]
  cases question t <;> rfl

/-- A question that the tables answer as the ledger does. -/
theorem Holds.ask {α : Type} (h : c.Holds db l) {question : Tables → Except Fault α} {a : α}
    (hq : ∀ t : Tables, t.Holds l → question t = .ok a) :
    (c.ask db question).value = l.answer a := by
  rcases h.reach with ⟨hc, ht⟩ | ⟨hc, t, ht, hl⟩
  · unfold Connection.ask
    rw [ht, Ledger.answer_closed hc]
    rfl
  · rw [Ledger.answer_open hc, ask_of_reached ht, hq t hl]

theorem Holds.settle (h : c.Holds db l) : c.settle.Holds db l :=
  ⟨h.closed, h.pool, h.tables⟩

/-- What is appended to tables is the batch with its numbers. -/
theorem of_appended {t t' : Tables} {stream : String} {expected v : Int} {batch stamped : List Event}
    (h : appended t stream expected batch = .ok (v, t', stamped)) :
    stamped = Batch.numberFrom stream (expected + 1) batch ∧
      t' = { t with events := t.events ++ stamped.map EventRow.ofEvent } ∧
      (batch ≠ [] → noStream ≤ expected) := by
  unfold appended at h
  dsimp only at h
  split at h
  · cases h
  split at h
  · rename_i hempty
    cases h
    obtain rfl := List.isEmpty_iff.mp hempty
    exact ⟨rfl, by simp, fun hne => absurd rfl hne⟩
  split at h
  · cases h
  · rename_i stamped' hs
    split at h
    · cases h
    · cases h
    · rename_i t₁ hinsert
      cases h
      refine ⟨?_, Tables.of_insertAll hinsert, fun _ => ?_⟩
      · rcases Batch.stamp_cases stream expected batch with hn | ⟨f, hf⟩
        · exact Except.ok.inj (hs.symm.trans hn)
        · cases hs.symm.trans hf
      · unfold Batch.stamp at hs
        split at hs
        · cases hs
        · rename_i hexpected
          exact Int.not_lt.mp hexpected

theorem tables_some {c : Connection} {db : Database} {t : Tables} (h : c.tables db = .ok t) :
    db.tables = some t := by
  unfold tables reach at h
  split at h
  · cases h
  split at h
  · cases h
  split at h
  · cases h
  · rename_i t₀ ht
    exact ht.trans (congrArg some (Except.ok.inj h))

/-- The answer of an append that reaches tables. -/
theorem append_answer {c : Connection} {db : Database} {t : Tables} (h : c.tables db = .ok t)
    (stream : String) (expected : Int) (batch : List Event) :
    (c.append db stream expected batch).value.1 =
      (appended t stream expected batch).map (·.1) := by
  unfold append
  rw [h]
  simp only [Except.bind]
  rcases appended t stream expected batch with f | ⟨v, t', stamped⟩
  · rfl
  · dsimp only
    split <;> rfl

/-- A connection that reaches tables reaches those that are put in their place. -/
theorem tables_of_open {c : Connection} {db : Database} {t : Tables} (h : c.tables db = .ok t)
    (hub : Hub) (t' : Tables) : tables { c with hub } ⟨some t'⟩ = .ok t' := by
  unfold tables reach at h
  split at h
  · cases h
  split at h
  · cases h
  · rename_i hclosed hpool
    show (if c.closed = true then _ else if c.poolClosed = true then _ else _) = _
    rw [if_neg hclosed, if_neg hpool]

/-- A connection refuses a batch and leaves the database as it is, or it reaches tables with the
batch in them. -/
theorem append_cases (c : Connection) (db : Database) (stream : String) (expected : Int)
    (batch : List Event) :
    (∃ f, (c.append db stream expected batch).value = (.error f, c.settle, db)) ∨
    ∃ t t' v, c.tables db = .ok t ∧
      appended t stream expected batch =
        .ok (v, t', Batch.numberFrom stream (expected + 1) batch) ∧
      (c.append db stream expected batch).value.1 = .ok v ∧
      (c.append db stream expected batch).value.2.1.tables
        (c.append db stream expected batch).value.2.2 = .ok t' := by
  unfold append
  cases htables : c.tables db with
  | error f => exact Or.inl ⟨f, rfl⟩
  | ok t =>
      simp only [Except.bind]
      rcases happended : appended t stream expected batch with f | ⟨v, t', stamped⟩
      · exact Or.inl ⟨f, rfl⟩
      · obtain ⟨rfl, ht', -⟩ := of_appended happended
        refine Or.inr ⟨t, t', v, rfl, happended, ?_⟩
        dsimp only
        split
        · rename_i hempty
          rw [List.isEmpty_iff.mp hempty, List.map_nil, List.append_nil] at ht'
          exact ⟨rfl, htables.trans (congrArg Except.ok ht'.symm)⟩
        · refine ⟨rfl, ?_⟩
          exact tables_of_open htables _ t'

theorem appended_of_holds {t : Tables} (h : t.Holds l) (hopen : l.closed = false)
    (stream : String) (expected : Int) {batch : List Event}
    (hbatch : ∀ e ∈ batch, e.Storable) :
    (∃ f, appended t stream expected batch = .error f ∧
      (l.append stream expected batch = (.error f, l) ∨ ¬ l.Fresh batch)) ∨
    ∃ t' stamped, appended t stream expected batch =
        .ok (expected + batch.length, t', stamped) ∧
      l.append stream expected batch = (.ok (expected + batch.length), l.extend stream batch) ∧
      t'.Holds (l.extend stream batch) ∧ (stamped = [] → t' = t) := by
  unfold appended Ledger.append
  rw [h.lists.currentVersion, hopen]
  by_cases hv : l.version stream = expected
  · subst hv
    simp only [ne_eq, not_true_eq_false, if_false, Bool.false_eq_true]
    cases batch with
    | nil =>
        rw [Batch.stamp_nil (l.noStream_le_version stream), Ledger.extend_nil]
        exact Or.inr ⟨t, [], by simp, rfl, h, fun _ => rfl⟩
    | cons e rest =>
        simp only [List.isEmpty_cons, Bool.false_eq_true, if_false]
        rcases Batch.stamp_cases stream (l.version stream) (e :: rest) with hs | ⟨f, hs⟩
        · rw [hs]
          rcases Tables.insertAll_cases h.refused
              (Batch.numberFrom stream (l.version stream + 1) (e :: rest)) with hi | hi
          · refine Or.inr ⟨_, Batch.numberFrom stream (l.version stream + 1) (e :: rest),
              by simp only [hi, Batch.length_numberFrom], rfl, h.extend stream hbatch,
              fun hnil => ?_⟩
            exact absurd (congrArg List.length hnil) (by simp)
          · refine Or.inl ⟨.conflict stream (l.version stream) (l.version stream),
              by simp only [hi], Or.inr fun hfresh => ?_⟩
            have hids : ∀ x ∈ l.log ++ (e :: rest), x.id.bits < 2 ^ 128 := fun x hx =>
              (List.mem_append.mp hx).elim (fun hx => (h.stored x hx).id)
                fun hx => (hbatch x hx).id
            have hok := Tables.insertAll_of_apart h.refused _ h.events
              (hfresh.apart stream h.numbered hids)
            rw [hok] at hi
            exact absurd hi (by simp)
        · rw [hs]
          exact Or.inl ⟨f, rfl, Or.inl rfl⟩
  · simp only [ne_eq, hv, not_false_eq_true, if_true, Bool.false_eq_true, if_false]
    exact Or.inl ⟨_, rfl, Or.inl rfl⟩

theorem Holds.append (h : c.Holds db l) (stream : String) (expected : Int) {batch : List Event}
    (hbatch : ∀ e ∈ batch, e.Storable) :
    ((c.append db stream expected batch).value.1 = (l.append stream expected batch).1 ∧
      (c.append db stream expected batch).value.2.1.Holds
        (c.append db stream expected batch).value.2.2 (l.append stream expected batch).2) ∨
    ¬ l.Fresh batch ∧ (∃ f, (c.append db stream expected batch).value.1 = .error f) ∧
      (c.append db stream expected batch).value.2.1.Holds
        (c.append db stream expected batch).value.2.2 l := by
  have hsettle := h.settle
  unfold Connection.append
  rcases h.reach with ⟨hc, ht⟩ | ⟨hc, t, ht, hl⟩
  · rw [ht, Ledger.append_closed hc]
    exact Or.inl ⟨rfl, hsettle⟩
  · rw [ht]
    simp only [Except.bind]
    rcases appended_of_holds hl hc stream expected hbatch with
      ⟨f, happ, hwhy⟩ | ⟨t', stamped, happ, hledger, hext, hnil⟩
    · rw [happ]
      rcases hwhy with hledger | hfresh
      · rw [hledger]
        exact Or.inl ⟨rfl, hsettle⟩
      · exact Or.inr ⟨hfresh, ⟨f, rfl⟩, hsettle⟩
    · rw [happ, hledger]
      cases stamped with
      | nil =>
          exact Or.inl ⟨rfl, h.closed, h.pool, t, tables_some ht, hnil rfl ▸ hext⟩
      | cons e rest => exact Or.inl ⟨rfl, h.closed, h.pool, t', rfl, hext⟩

theorem Holds.saveSnapshot (h : c.Holds db l) {s : StateSnapshot} (hs : s.Stored) :
    (c.saveSnapshot db s).value.1 = (l.saveSnapshot s).1 ∧
      c.Holds (c.saveSnapshot db s).value.2 (l.saveSnapshot s).2 := by
  unfold Connection.saveSnapshot
  rcases h.reach with ⟨hc, ht⟩ | ⟨hc, t, ht, hl⟩
  · rw [ht, Ledger.saveSnapshot_closed hc]
    exact ⟨rfl, h⟩
  · rw [ht, Ledger.saveSnapshot_open hc]
    exact ⟨rfl, h.closed, h.pool, _, rfl, hl.saveSnapshot hs⟩

theorem Holds.deleteSnapshot (h : c.Holds db l) (stream : String) :
    (c.deleteSnapshot db stream).value.1 = (l.deleteSnapshot stream).1 ∧
      c.Holds (c.deleteSnapshot db stream).value.2 (l.deleteSnapshot stream).2 := by
  unfold Connection.deleteSnapshot
  rcases h.reach with ⟨hc, ht⟩ | ⟨hc, t, ht, hl⟩
  · rw [ht, Ledger.deleteSnapshot_closed hc]
    exact ⟨rfl, h⟩
  · rw [ht, Ledger.deleteSnapshot_open hc]
    refine ⟨?_, h.closed, h.pool, _, rfl, hl.deleteSnapshot stream⟩
    show Except.ok (t.snapshots.contains stream) = .ok (l.snapshots.contains stream)
    rw [hl.snapshots, Dict.contains_mapValues]

theorem Holds.close (h : c.Holds db l) : c.close.value.Holds db l.close := by
  unfold Connection.close
  by_cases hc : c.closed = true
  · rw [if_pos hc]
    obtain ⟨t, ht, hl⟩ := h.tables
    exact ⟨hc, by simp [Ledger.close], t, ht,
      hl.events, hl.snapshots, hl.refused, hl.stored, hl.saved, hl.numbered⟩
  · rw [if_neg hc]
    obtain ⟨t, ht, hl⟩ := h.tables
    exact ⟨rfl, by simp [Ledger.close], t, ht,
      hl.events, hl.snapshots, hl.refused, hl.stored, hl.saved, hl.numbered⟩

end Connection

/-! ### Stores of either kind -/

namespace Store

/-- A store holds a ledger. -/
def Holds : Store → Ledger → Prop
  | .memory s, l => s.ledger = l
  | .database c db, l => c.Holds db l

/-- An event that comes back from a store as it was stored. -/
def Keeps : Store → Event → Prop
  | .memory _, _ => True
  | .database .., e => e.Storable

/-- A saved state that comes back from a store as it was saved. -/
def KeepsState : Store → StateSnapshot → Prop
  | .memory _, _ => True
  | .database .., s => s.Stored

variable {s : Store} {l : Ledger}

theorem keeps_of_storable (s : Store) {e : Event} (h : e.Storable) : s.Keeps e := by
  cases s with
  | memory => exact trivial
  | database => exact h

theorem keepsState_of_stored (s : Store) {x : StateSnapshot} (h : x.Stored) : s.KeepsState x := by
  cases s with
  | memory => exact trivial
  | database => exact h

/-- A new store of either kind holds the empty ledger. -/
theorem holds_memory_new (buffer : Nat) : (memory (.new buffer)).Holds .empty :=
  rfl

theorem holds_database_new (buffer : Nat) : (database (.new buffer) .new).Holds .empty where
  closed := rfl
  pool _ := rfl
  tables := ⟨.empty, rfl, rfl, rfl, rfl, fun _ he => absurd he List.not_mem_nil,
    fun _ hp => absurd hp List.not_mem_nil, Ledger.numbered_empty⟩

/-- A store appends as its ledger does, unless a database refuses an identity that is taken. -/
theorem Holds.append (h : s.Holds l) (stream : String) (expected : Int) {batch : List Event}
    (hbatch : ∀ e ∈ batch, s.Keeps e) :
    ((s.append stream expected batch).value.1 = (l.append stream expected batch).1 ∧
      (s.append stream expected batch).value.2.Holds (l.append stream expected batch).2) ∨
    ¬ l.Fresh batch ∧ (∃ f, (s.append stream expected batch).value.1 = .error f) ∧
      (s.append stream expected batch).value.2.Holds l := by
  cases s with
  | memory m =>
      obtain rfl := h
      exact Or.inl (m.append_ledger stream expected batch)
  | database c db => exact Connection.Holds.append h stream expected hbatch

/-- A writer who does not know the version of the stream is told it, and nothing else happens. -/
theorem Holds.append_stale (h : s.Holds l) (hopen : l.closed = false) {stream : String}
    {expected : Int} (hversion : l.version stream ≠ expected) (batch : List Event) :
    (s.append stream expected batch).value.1 =
        .error (.conflict stream expected (l.version stream)) ∧
      (s.append stream expected batch).value.2.Holds l := by
  cases s with
  | memory m =>
      obtain rfl := h
      have hledger := m.append_ledger stream expected batch
      rw [Ledger.append_stale hopen hversion] at hledger
      exact hledger
  | database c db =>
      have hsettle := Connection.Holds.settle h
      show (c.append db stream expected batch).value.1 = _ ∧
        (c.append db stream expected batch).value.2.1.Holds
          (c.append db stream expected batch).value.2.2 l
      unfold Connection.append
      rcases Connection.Holds.reach h with ⟨hc, -⟩ | ⟨-, t, ht, hl⟩
      · cases hopen.symm.trans hc
      · have happended : Connection.appended t stream expected batch =
            .error (.conflict stream expected (l.version stream)) := by
          unfold Connection.appended
          rw [hl.lists.currentVersion, if_pos hversion]
        rw [ht]
        simp only [Except.bind, happended]
        exact ⟨rfl, hsettle⟩

theorem Holds.ask {α : Type} (h : s.Holds l) {memory : MemoryStore → Traced (Except Fault α)}
    {database : Connection → Database → Traced (Except Fault α)} {a : α}
    (hm : ∀ m : MemoryStore, m.ledger = l → (memory m).value = l.answer a)
    (hd : ∀ c db, c.Holds db l → (database c db).value = l.answer a) :
    (s.ask memory database).value.1 = l.answer a ∧ (s.ask memory database).value.2.Holds l := by
  cases s with
  | memory m => exact ⟨hm m h, h⟩
  | database c db => exact ⟨hd c db h, Connection.Holds.settle h⟩

theorem Holds.read (h : s.Holds l) (stream : String) (start : Int) :
    (s.read stream start).value.1 = l.read stream start ∧
      (s.read stream start).value.2.Holds l := by
  refine h.ask (fun m hm => ?_) fun c db hc => hc.ask fun t ht => ht.read stream start
  subst hm
  unfold MemoryStore.read
  rw [m.log.read_eq]
  exact m.whenOpen_value _

/-- The events of a stream, as the store reads them. -/
def stream (s : Store) (id : String) : List Event :=
  match (s.read id 0).value.1 with
  | .ok events => events
  | .error _ => []

theorem Holds.stream (h : s.Holds l) (hopen : l.closed = false) (id : String) :
    s.stream id = l.events id := by
  have hread := (h.read id 0).1
  unfold Ledger.read at hread
  rw [l.answer_open hopen] at hread
  unfold Store.stream
  rw [hread]
  rfl

theorem Holds.readAll (h : s.Holds l) {f : EventFilter} (hfrom : f.fromTime = none)
    (hto : f.toTime = none) :
    (s.readAll f).value.1 = l.readAll f ∧ (s.readAll f).value.2.Holds l := by
  refine h.ask (fun m hm => ?_) fun c db hc => hc.ask fun t ht => ht.readAll hfrom hto
  subst hm
  exact m.whenOpen_value _

theorem Holds.streamVersion (h : s.Holds l) (stream : String) :
    (s.streamVersion stream).value.1 = l.answer (l.version stream) ∧
      (s.streamVersion stream).value.2.Holds l := by
  refine h.ask (fun m hm => ?_) fun c db hc =>
    hc.ask fun t ht => congrArg Except.ok (ht.lists.currentVersion stream)
  subst hm
  unfold MemoryStore.streamVersion
  rw [m.log.version_eq]
  exact m.whenOpen_value _

theorem Holds.loadSnapshot (h : s.Holds l) (stream : String) :
    (s.loadSnapshot stream).value.1 = l.loadSnapshot stream ∧
      (s.loadSnapshot stream).value.2.Holds l := by
  refine h.ask (fun m hm => ?_) fun c db hc => hc.ask fun t ht => ht.loadSnapshot stream
  subst hm
  exact m.whenOpen_value _

theorem Holds.saveSnapshot (h : s.Holds l) {x : StateSnapshot} (hx : s.KeepsState x) :
    (s.saveSnapshot x).value.1 = (l.saveSnapshot x).1 ∧
      (s.saveSnapshot x).value.2.Holds (l.saveSnapshot x).2 := by
  cases s with
  | memory m =>
      obtain rfl := h
      exact m.saveSnapshot_ledger x
  | database c db =>
      obtain ⟨hr, hl⟩ := Connection.Holds.saveSnapshot h hx
      exact ⟨hr, hl.settle⟩

theorem Holds.deleteSnapshot (h : s.Holds l) (stream : String) :
    (s.deleteSnapshot stream).value.1 = (l.deleteSnapshot stream).1 ∧
      (s.deleteSnapshot stream).value.2.Holds (l.deleteSnapshot stream).2 := by
  cases s with
  | memory m =>
      obtain rfl := h
      exact m.deleteSnapshot_ledger stream
  | database c db =>
      obtain ⟨hr, hl⟩ := Connection.Holds.deleteSnapshot h stream
      exact ⟨hr, hl.settle⟩

theorem Holds.close (h : s.Holds l) : s.close.value.Holds l.close := by
  cases s with
  | memory m =>
      obtain rfl := h
      exact m.close_ledger
  | database c db => exact Connection.Holds.close h

end Store

end EventNet
