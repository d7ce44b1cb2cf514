import EventNet.Proofs.Store.Conflicts
import EventNet.Proofs.Store.Echo

/-!
What a database selects by a filter.

Rows have times in whole microseconds, and a query compares them with the bounds of the filter in whole
microseconds as well.  So a database selects by the filter as rows would have it (`EventFilter.inRows`),
from the events as its rows have them.  The upper bound loses nothing by this.  The lower one does: events
in its microsecond but before it are selected, though the filter does not let them pass (`Early`), and
where the number of events is limited they take the place of others.  A store in memory and its
subscriptions ask the filter itself.
-/

namespace EventNet

/-! ### Times in rows -/

namespace Instant

/-- A time in whole microseconds that is no leap second. -/
structure Whole (a : Instant) : Prop where
  nanos : a.nanos < 1000000000
  micros : a.nanos % 1000 = 0

theorem whole_inRow (a : Instant) : a.inRow.Whole where
  nanos := by
    show (a.micros % 1000000).toNat * 1000 < 1000000000
    omega
  micros := Nat.mul_mod_left ..

theorem micros_inRow (a : Instant) : a.inRow.micros = a.micros := by
  show a.micros / 1000000 * 1000000 + ((a.micros % 1000000).toNat * 1000 / 1000 : Nat) = a.micros
  omega

theorem le_iff (a b : Instant) :
    a.le b = true ↔ a.seconds < b.seconds ∨ a.seconds = b.seconds ∧ a.nanos ≤ b.nanos := by
  simp [le]

/-- Times in rows are in the order of their microseconds. -/
theorem le_inRow (a b : Instant) : a.inRow.le b.inRow = decide (a.micros ≤ b.micros) := by
  rw [Bool.eq_iff_iff, le_iff, decide_eq_true_iff]
  show a.micros / 1000000 < b.micros / 1000000 ∨ a.micros / 1000000 = b.micros / 1000000 ∧
    (a.micros % 1000000).toNat * 1000 ≤ (b.micros % 1000000).toNat * 1000 ↔ _
  omega

variable {a b : Instant}

/-- Cutting an upper bound to its microsecond changes nothing for whole times. -/
theorem Whole.le_inRow_iff (ha : a.Whole) (hb : b.nanos < 1000000000) :
    a.le b.inRow = true ↔ a.le b = true := by
  have hmicros := ha.micros
  rw [inRow_of_nanos hb, le_iff, le_iff]
  show a.seconds < b.seconds ∨ a.seconds = b.seconds ∧ a.nanos ≤ b.nanos - b.nanos % 1000 ↔ _
  omega

/-- Cutting a lower bound to its microsecond lets in the whole time that lies before it there. -/
theorem Whole.inRow_le_iff (ha : a.Whole) (hb : b.nanos < 1000000000) :
    b.le a = true ↔ b.inRow.le a = true ∧ ¬ (a.lt b = true ∧ b.toMicrosecond = a) := by
  have hmicros := ha.micros
  have hsame : b.toMicrosecond = a ↔
      b.seconds = a.seconds ∧ b.nanos - b.nanos % 1000 = a.nanos := by
    cases a
    exact Instant.mk.injEq .. ▸ Iff.rfl
  unfold lt
  rw [inRow_of_nanos hb, Bool.not_eq_true', ← Bool.not_eq_true, hsame, le_iff, le_iff]
  show _ ↔ (b.seconds < a.seconds ∨ b.seconds = a.seconds ∧ b.nanos - b.nanos % 1000 ≤ a.nanos) ∧ _
  omega

end Instant

/-- An event as its row has it. -/
def Event.inRow (e : Event) : Event :=
  { e with timestamp := e.timestamp.inRow }

theorem Event.Stored.inRow {e : Event} (h : e.Stored) : e.inRow = e := by
  unfold Event.inRow
  rw [Instant.inRow_of_nanos h.time.nanos, h.whole]

namespace EventFilter

/-- A filter with its bounds as rows would have them. -/
def inRows (f : EventFilter) : EventFilter :=
  { f with fromTime := f.fromTime.map Instant.inRow, toTime := f.toTime.map Instant.inRow }

/-- The events that a filter asks for. -/
def select (f : EventFilter) (log : List Event) : List Event :=
  f.cut (log.filter f.passes)

/-- No bound is a leap second. -/
def Ordinary (f : EventFilter) : Prop :=
  ∀ t, f.fromTime = some t ∨ f.toTime = some t → t.nanos < 1000000000

/-- An event that comes before the lower bound, but in its microsecond. -/
def Early (f : EventFilter) (e : Event) : Prop :=
  ∃ t, f.fromTime = some t ∧ e.timestamp.lt t = true ∧ t.toMicrosecond = e.timestamp

variable {f : EventFilter} {e : Event}

theorem Ordinary.passes_iff (h : f.Ordinary) (he : e.timestamp.Whole) :
    f.passes e = true ↔ f.inRows.passes e = true ∧ ¬ f.Early e := by
  have hfrom : f.fromTime.all (·.le e.timestamp) = true ↔
      (f.fromTime.map Instant.inRow).all (·.le e.timestamp) = true ∧ ¬ f.Early e := by
    unfold Early
    cases ht : f.fromTime with
    | none => simp
    | some t => simpa using he.inRow_le_iff (h t (Or.inl ht))
  have hto : f.toTime.all (e.timestamp.le ·) = true ↔
      (f.toTime.map Instant.inRow).all (e.timestamp.le ·) = true := by
    cases ht : f.toTime with
    | none => exact Iff.rfl
    | some t => exact (he.le_inRow_iff (h t (Or.inr ht))).symm
  unfold passes
  simp only [Bool.and_eq_true, hfrom, hto]
  exact ⟨fun ⟨⟨hrest, hlate, hearly⟩, hupper⟩ => ⟨⟨⟨hrest, hlate⟩, hupper⟩, hearly⟩,
    fun ⟨⟨⟨hrest, hlate⟩, hupper⟩, hearly⟩ => ⟨⟨hrest, hlate, hearly⟩, hupper⟩⟩

theorem not_early_of_whole (f : EventFilter) (h : ∀ t, f.fromTime = some t → t.Whole) (e : Event) :
    ¬ f.Early e := by
  rintro ⟨t, hfrom, hlt, heq⟩
  have hsame : t.toMicrosecond = t := by
    unfold Instant.toMicrosecond
    rw [(h t hfrom).micros, Nat.sub_zero]
  rw [← heq, hsame] at hlt
  unfold Instant.lt at hlt
  rw [(Instant.le_iff t t).mpr (Or.inr ⟨rfl, Nat.le_refl _⟩)] at hlt
  cases hlt

/-- Where the first entries all pass a test, they are the first that pass it. -/
private theorem take_filter {p : Event → Bool} {events : List Event} {n : Nat}
    (h : ∀ e ∈ events.take n, p e = true) : (events.filter p).take n = events.take n := by
  induction events generalizing n with
  | nil => rfl
  | cons e rest ih =>
      cases n with
      | zero => rfl
      | succ n =>
          obtain ⟨he, hrest⟩ := List.forall_mem_cons.mp h
          rw [List.filter_cons_of_pos he, List.take_succ_cons, List.take_succ_cons, ih hrest]

theorem cut_filter_iff (f : EventFilter) (p : Event → Bool) (events : List Event) :
    f.cut (events.filter p) = f.cut events ↔ ∀ e ∈ f.cut events, p e = true := by
  constructor
  · intro h e he
    rw [← h] at he
    exact (List.mem_filter.mp (mem_of_mem_cut he)).2
  · unfold cut
    cases f.limit with
    | none => exact List.filter_eq_self.mpr
    | some n => exact take_filter

/-- The filter and its form in rows select the same exactly if no event that is selected is early. -/
theorem Ordinary.select_inRows_iff (h : f.Ordinary) {stored : List Event}
    (hstored : ∀ e ∈ stored, e.timestamp.Whole) :
    f.inRows.select stored = f.select stored ↔ ∀ e ∈ f.inRows.select stored, ¬ f.Early e := by
  have hfilter : stored.filter f.passes = (stored.filter f.inRows.passes).filter f.passes := by
    rw [List.filter_filter]
    refine List.filter_congr fun e he => Bool.eq_iff_iff.mpr ?_
    rw [Bool.and_eq_true]
    exact ⟨fun hp => ⟨hp, ((h.passes_iff (hstored e he)).mp hp).1⟩, And.left⟩
  have hcut := f.cut_filter_iff f.passes (stored.filter f.inRows.passes)
  rw [← hfilter] at hcut
  rw [eq_comm]
  refine hcut.trans (forall₂_congr fun e he => ?_)
  obtain ⟨hin, hpasses⟩ := List.mem_filter.mp (mem_of_mem_cut he)
  rw [h.passes_iff (hstored e hin)]
  exact and_iff_right hpasses

end EventFilter

/-! ### What tables select -/

namespace EventRow

theorem ofEvent_inRow (e : Event) : ofEvent e.inRow = ofEvent e := by
  show EventRow.mk _ _ _ _ e.timestamp.inRow.micros _ _ = _
  rw [e.timestamp.micros_inRow]
  rfl

/-- A row is compared as the filter in rows does. -/
theorem passes_ofEvent (f : EventFilter) (e : Event) :
    passes f (ofEvent e) = f.inRows.passes e.inRow := by
  have hfrom : f.fromTime.all (fun t => decide (t.micros ≤ e.timestamp.micros)) =
      (f.fromTime.map Instant.inRow).all (·.le e.timestamp.inRow) := by
    cases f.fromTime with
    | none => rfl
    | some t => exact (t.le_inRow e.timestamp).symm
  have hto : f.toTime.all (fun t => decide (e.timestamp.micros ≤ t.micros)) =
      (f.toTime.map Instant.inRow).all (e.timestamp.inRow.le ·) := by
    cases f.toTime with
    | none => rfl
    | some t => exact (e.timestamp.le_inRow t).symm
  unfold passes EventFilter.passes
  exact congrArg₂ _ (congrArg₂ _ rfl hfrom) hto

end EventRow

theorem Tables.select_rows {t : Tables} {log : List Event}
    (hrows : t.events = log.map EventRow.ofEvent) (f : EventFilter) :
    t.select f = (f.inRows.select (log.map Event.inRow)).map EventRow.ofEvent := by
  refine select_of_rows (p := f.inRows.passes) ?_ fun e he => ?_
  · rw [hrows, List.map_map]
    exact List.map_congr_left fun e _ => (EventRow.ofEvent_inRow e).symm
  · obtain ⟨x, -, rfl⟩ := List.mem_map.mp he
    rw [EventRow.ofEvent_inRow]
    exact EventRow.passes_ofEvent f x

/-! ### Stores that are open -/

namespace Store

/-- A database store that reaches its tables. -/
def Reaches : Store → Prop
  | .memory _ => False
  | .database c db => ∃ t, c.tables db = .ok t

variable {s : Store} {log : List Event}

/-- Only closing keeps a store from its tables. -/
theorem Reaches.perform (h : s.Reaches) {op : StoreOp} (hop : op ≠ .close) :
    (s.perform op).2.Reaches := by
  cases s with
  | memory m => exact h.elim
  | database c db =>
      obtain ⟨t, ht⟩ := h
      cases op with
      | append stream expected batch =>
          show ∃ t, (c.append db stream expected batch).value.2.1.tables
            (c.append db stream expected batch).value.2.2 = .ok t
          rcases c.append_cases db stream expected batch with ⟨f, heq⟩ | ⟨-, t', -, -, -, -, ht'⟩
          · rw [heq]
            exact ⟨t, ht⟩
          · exact ⟨t', ht'⟩
      | saveSnapshot x =>
          show ∃ t, c.settle.tables (c.saveSnapshot db x).value.2 = .ok t
          unfold Connection.saveSnapshot
          rw [ht]
          exact ⟨_, Connection.tables_of_open ht _ _⟩
      | deleteSnapshot stream =>
          show ∃ t, c.settle.tables (c.deleteSnapshot db stream).value.2 = .ok t
          unfold Connection.deleteSnapshot
          rw [ht]
          exact ⟨_, Connection.tables_of_open ht _ _⟩
      | close => exact absurd rfl hop
      | _ => exact ⟨t, ht⟩

theorem Reaches.afterCalls (h : s.Reaches) {ops : List StoreOp} (hops : ∀ op ∈ ops, op ≠ .close) :
    (s.afterCalls ops).Reaches := by
  induction ops generalizing s with
  | nil => exact h
  | cons op rest ih =>
      obtain ⟨hop, hrest⟩ := List.forall_mem_cons.mp hops
      exact ih (h.perform hop) hrest

/-- What a database with a log answers to a filter. -/
theorem Filled.readAll (h : s.Filled log) (hopen : s.Reaches) (f : EventFilter) :
    (s.readAll f).value.1 = s.echo (f.inRows.select (log.map Event.inRow)) := by
  cases s with
  | memory m => exact h.elim
  | database c db =>
      obtain ⟨t, ht⟩ := hopen
      show (c.ask db (·.readAll f)).value = _
      rw [Connection.ask_of_reached ht]
      unfold Tables.readAll
      rw [Tables.select_rows (h t (Connection.tables_some ht)).events]
      rfl

/-! ### A store in memory beside it -/

theorem Filled.version_of_reaches {l : Ledger} (h : s.Filled l.log) (hopen : s.Reaches)
    (stream : String) : (s.streamVersion stream).value.1 = .ok (l.version stream) := by
  cases s with
  | memory m => exact h.elim
  | database c db =>
      obtain ⟨t, ht⟩ := hopen
      show (c.ask db fun t => .ok (t.currentVersion stream)).value = _
      rw [Connection.ask_of_reached ht]
      exact congrArg Except.ok ((h t (Connection.tables_some ht)).currentVersion stream)

/-- An append adds to an open ledger what it adds to a database with the same log, if the identities are
new. -/
theorem Filled.log_append {l : Ledger} (h : s.Filled l.log) (hopen : s.Reaches)
    (hledger : l.closed = false) {w : Writing} (hdistinct : w.Distinct l.log) :
    (l.append w.stream w.expected w.batch).2.closed = false ∧
      (l.append w.stream w.expected w.batch).2.log =
        l.log ++ w.placed (s.append w.stream w.expected w.batch).value.1 := by
  rcases h.append_cases (h.version_of_reaches hopen w.stream) with
    ⟨hne, hanswer⟩ | ⟨hversion, hnot, hanswer⟩ | ⟨-, -, htaken, -⟩ |
      ⟨hversion, hnumbers, -, hanswer⟩
  · rw [Ledger.append_stale hledger (Ne.symm hne), hanswer]
    exact ⟨hledger, (List.append_nil _).symm⟩
  · rw [Ledger.append_of_not_numberable hledger hversion.symm hnot, hanswer]
    exact ⟨hledger, (List.append_nil _).symm⟩
  · exact absurd hdistinct htaken
  · rw [Ledger.append_of_numberable hledger hversion.symm hnumbers, hanswer]
    refine ⟨hledger, ?_⟩
    show l.log ++ Batch.numberFrom w.stream (l.version w.stream + 1) w.batch =
      l.log ++ Batch.numberFrom w.stream (w.expected + 1) w.batch
    rw [← hversion]

theorem Filled.log_perform {l : Ledger} (h : s.Filled l.log) (hopen : s.Reaches)
    (hledger : l.closed = false) {op : StoreOp} (hop : op ≠ .close)
    (hids : ((l.log ++ op.batch).map (·.id.text)).Nodup) :
    (l.perform op).2.closed = false ∧
      (l.perform op).2.log = l.log ++ op.placed (s.perform op).1 := by
  cases op with
  | append stream expected batch =>
      exact h.log_append hopen hledger (w := ⟨stream, expected, batch⟩) hids
  | saveSnapshot x =>
      show (l.saveSnapshot x).2.closed = false ∧ (l.saveSnapshot x).2.log = l.log ++ []
      rw [l.saveSnapshot_open hledger, List.append_nil]
      exact ⟨hledger, rfl⟩
  | deleteSnapshot stream =>
      show (l.deleteSnapshot stream).2.closed = false ∧ (l.deleteSnapshot stream).2.log = l.log ++ []
      rw [l.deleteSnapshot_open hledger, List.append_nil]
      exact ⟨hledger, rfl⟩
  | close => exact absurd rfl hop
  | _ => exact ⟨hledger, (List.append_nil l.log).symm⟩

theorem memory_perform (m : MemoryStore) (op : StoreOp) :
    ∃ m', ((memory m).perform op).2 = memory m' ∧ m'.ledger = (m.ledger.perform op).2 := by
  cases op with
  | append stream expected batch => exact ⟨_, rfl, (m.append_ledger stream expected batch).2⟩
  | saveSnapshot x => exact ⟨_, rfl, (m.saveSnapshot_ledger x).2⟩
  | deleteSnapshot stream => exact ⟨_, rfl, (m.deleteSnapshot_ledger stream).2⟩
  | close => exact ⟨_, rfl, m.close_ledger⟩
  | _ => exact ⟨m, rfl, rfl⟩

/-- A store in memory gets the log of a database that is called alike, if all identities differ. -/
theorem Filled.memory_afterCalls {m : MemoryStore} (h : s.Filled m.ledger.log) (hopen : s.Reaches)
    (hmemory : m.closed = false) {ops : List StoreOp} (hops : ∀ op ∈ ops, op ≠ .close)
    (hids : ((m.ledger.log ++ ops.flatMap StoreOp.batch).map (·.id.text)).Nodup) :
    ∃ m', (memory m).afterCalls ops = memory m' ∧ m'.closed = false ∧
      m'.ledger.log = m.ledger.log ++ s.accepted ops := by
  induction ops generalizing s m with
  | nil => exact ⟨m, rfl, hmemory, (List.append_nil _).symm⟩
  | cons op rest ih =>
      obtain ⟨hop, hrest⟩ := List.forall_mem_cons.mp hops
      rw [List.flatMap_cons, ← List.append_assoc, List.map_append] at hids
      obtain ⟨m₁, hstore, hledger⟩ := memory_perform m op
      obtain ⟨hclosed, hlog⟩ := h.log_perform hopen hmemory hop hids.of_append_left
      rw [← hledger] at hclosed hlog
      have hlater : ((m₁.ledger.log ++ rest.flatMap StoreOp.batch).map (·.id.text)).Nodup := by
        have htexts := (m.ledger.ids_perform op).map EventId.text
        rw [List.map_map, List.map_map, ← hledger] at htexts
        rw [List.map_append]
        exact hids.sublist (htexts.append_right _)
      obtain ⟨m', hm', hclosed', hlog'⟩ :=
        ih (hlog ▸ h.perform op) (hopen.perform hop) hclosed hrest hlater
      refine ⟨m', ?_, hclosed', ?_⟩
      · show ((memory m).perform op).2.afterCalls rest = _
        rw [hstore, hm']
      · rw [hlog', hlog, accepted, List.append_assoc]

/-! ### Events that lose nothing in rows -/

theorem stored_placed {op : StoreOp} (h : ∀ e ∈ op.batch, e.Storable) (r : Reply) :
    ∀ e ∈ op.placed r, e.Stored := by
  intro e he
  unfold StoreOp.placed at he
  split at he
  · rename_i stream expected batch answer
    cases answer with
    | error f => exact absurd he List.not_mem_nil
    | ok v =>
        obtain ⟨i, x, hx, rfl⟩ := Batch.mem_numberFrom he
        exact ⟨(h x (List.mem_of_getElem? hx)).place stream _,
          Instant.toMicrosecond_toMicrosecond _⟩
  · exact absurd he List.not_mem_nil

theorem stored_accepted (s : Store) {ops : List StoreOp}
    (h : ∀ e ∈ ops.flatMap StoreOp.batch, e.Storable) : ∀ e ∈ s.accepted ops, e.Stored := by
  induction ops generalizing s with
  | nil => exact fun e he => absurd he List.not_mem_nil
  | cons op rest ih =>
      rw [List.flatMap_cons] at h
      intro e he
      rcases List.mem_append.mp he with he | he
      · exact stored_placed (fun x hx => h x (List.mem_append_left _ hx)) _ e he
      · exact ih _ (fun x hx => h x (List.mem_append_right _ hx)) e he

theorem echo_of_stored (s : Store) {events : List Event} (h : ∀ e ∈ events, e.Stored) :
    s.echo events = .ok events := by
  cases s with
  | memory m => rfl
  | database c db => exact EventRow.toEvents_map h

/-- Events that lose nothing in rows are read as they are. -/
theorem Filled.readAll_stored (h : s.Filled log) (hopen : s.Reaches) (hstored : ∀ e ∈ log, e.Stored)
    (f : EventFilter) : (s.readAll f).value.1 = .ok (f.inRows.select log) := by
  have hsame : log.map Event.inRow = log :=
    (List.map_congr_left fun e he => (hstored e he).inRow).trans (List.map_id _)
  rw [h.readAll hopen, hsame]
  refine echo_of_stored _ fun e he => hstored e ?_
  exact (List.mem_filter.mp (EventFilter.mem_of_mem_cut he)).1

/-! ### Selecting -/

/-- What a database that has stored some events answers to a filter. -/
structure Selects (s : Store) (stored : List Event) (f : EventFilter) : Prop where
  answer : (s.readAll f).value.1 = s.echo (f.inRows.select stored)
  /-- The filter itself asks for the same exactly if no event before its lower bound is selected. -/
  exact_iff : f.Ordinary →
    (f.inRows.select stored = f.select stored ↔ ∀ e ∈ f.inRows.select stored, ¬ f.Early e)
  /-- So it does if its lower bound is in whole microseconds. -/
  whole : f.Ordinary → (∀ t, f.fromTime = some t → t.Whole) →
    (s.readAll f).value.1 = s.echo (f.select stored)

theorem Filled.selects (h : s.Filled log) (hopen : s.Reaches) (f : EventFilter) :
    s.Selects (log.map Event.inRow) f := by
  have hstored : ∀ e ∈ log.map Event.inRow, e.timestamp.Whole := fun e he => by
    obtain ⟨x, -, rfl⟩ := List.mem_map.mp he
    exact x.timestamp.whole_inRow
  refine ⟨h.readAll hopen f, fun hf => hf.select_inRows_iff hstored, fun hf hwhole => ?_⟩
  rw [h.readAll hopen f, (hf.select_inRows_iff hstored).mpr fun e _ => f.not_early_of_whole hwhole e]

/-- **A database selects by the microsecond.**  After any calls to a new database other than closing it,
it answers a filter with the events that pass when times and bounds are compared as rows have them, in
the order of their appending and cut to the limit.  That is what the filter asks for, unless an event is
among them that lies before the lower bound, but in its microsecond.  Events that lose nothing in rows
come back as they are, and where all identities differ a store in memory that was called alike answers
with just what the filter asks for. -/
theorem selects_by_microsecond (buffer : Nat) {ops : List StoreOp}
    (hops : ∀ op ∈ ops, op ≠ .close) (f : EventFilter) :
    ((database (.new buffer) .new).afterCalls ops).Selects
        (((database (.new buffer) .new).accepted ops).map Event.inRow) f ∧
      ((∀ e ∈ ops.flatMap StoreOp.batch, e.Storable) →
        (((database (.new buffer) .new).afterCalls ops).readAll f).value.1 =
          .ok (f.inRows.select ((database (.new buffer) .new).accepted ops))) ∧
      (((ops.flatMap StoreOp.batch).map (·.id.text)).Nodup → ∀ buffer' : Nat,
        (((memory (.new buffer')).afterCalls ops).readAll f).value.1 =
          .ok (f.select ((database (.new buffer) .new).accepted ops))) := by
  have hnew : (database (.new buffer) .new).Reaches := ⟨.empty, rfl⟩
  have hselects := ((filled_new buffer).afterCalls ops).selects (hnew.afterCalls hops) f
  refine ⟨hselects, fun hstorable => ?_, fun hids buffer' => ?_⟩
  · exact ((filled_new buffer).afterCalls ops).readAll_stored (hnew.afterCalls hops)
      (stored_accepted _ hstorable) f
  · obtain ⟨m, hm, hclosed, hlog⟩ := Filled.memory_afterCalls (m := .new buffer')
      (filled_new buffer) hnew rfl hops hids
    rw [hm]
    show (m.readAll f).value = _
    unfold MemoryStore.readAll
    rw [m.whenOpen_value, m.ledger.answer_open hclosed]
    exact congrArg (fun log => Except.ok (f.select log)) hlog

/-! #### A bound within a microsecond -/

/-- An order at the first microsecond. -/
def orderOps : List StoreOp :=
  [.append "orders" (-1) [{ Event.order 1 with timestamp := ⟨0, 1000⟩ }]]

/-- What comes half a microsecond later. -/
def laterFilter : EventFilter :=
  { EventFilter.all with fromTime := some ⟨0, 1500⟩ }

theorem selects_orders :
    (((database (.new 1) .new).afterCalls orderOps).readAll laterFilter).value.1 =
        .ok (laterFilter.inRows.select ((database (.new 1) .new).accepted orderOps)) ∧
      (((memory (.new 1)).afterCalls orderOps).readAll laterFilter).value.1 =
        .ok (laterFilter.select ((database (.new 1) .new).accepted orderOps)) := by
  have hopen : ∀ op ∈ orderOps, op ≠ .close := fun op hop => by
    obtain rfl := List.mem_singleton.mp hop
    exact StoreOp.noConfusion
  have hstorable : ∀ e ∈ orderOps.flatMap StoreOp.batch, e.Storable := fun e he => by
    obtain rfl := List.mem_singleton.mp he
    exact ⟨by decide, ⟨by decide, by decide⟩, ⟨rfl, show Json.ofText? _ = _ by rfl⟩,
      fun m hm => nomatch hm⟩
  obtain ⟨-, hdatabase, hmemory⟩ := selects_by_microsecond 1 hopen laterFilter
  exact ⟨hdatabase hstorable, hmemory (List.pairwise_singleton _ _) 1⟩

/-- The order is selected by the database, but not by the filter and not by a store in memory. -/
theorem early_order_selected :
    ∃ e, (((database (.new 1) .new).afterCalls orderOps).readAll laterFilter).value.1 = .ok [e] ∧
      laterFilter.passes e = false ∧
      (((memory (.new 1)).afterCalls orderOps).readAll laterFilter).value.1 = .ok [] :=
  ⟨_, rfl, rfl, rfl⟩

end Store

end EventNet
