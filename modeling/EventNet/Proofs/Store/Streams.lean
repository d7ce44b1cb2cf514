import EventNet.Proofs.Store.Backends

/-!
Runs of appends to a store in memory.

Writers append batches to streams, each naming the version it expects its stream to have.  A writing is
accepted when the version is right, and then its events are numbered on from there; any other leaves the
store as it is (`write_cases`).  So the log is all that was accepted, in that order, and each stream is
what a filter picks from it, numbered from zero without gaps.  Later writings only add to the end of the
log, so what was read once is read again at the same place.
-/

namespace EventNet

/-- A call that appends a batch to a stream, naming the version it expects. -/
structure Writing where
  stream : String
  expected : Int
  batch : List Event

namespace Writing

/-- The events that a call adds to the log, by what it was answered. -/
def placed (w : Writing) : Except Fault Int → List Event
  | .ok _ => Batch.numberFrom w.stream (w.expected + 1) w.batch
  | .error _ => []

/-- Whether the numbers that follow the expected version are enough for the batch. -/
def Numberable (w : Writing) : Prop :=
  w.batch = [] ∨ w.expected + w.batch.length ≤ Double.maxInt64

variable {w : Writing}

theorem stamp_of_numberable (hexpected : noStream ≤ w.expected) (h : w.Numberable) :
    Batch.stamp w.stream w.expected w.batch =
      .ok (Batch.numberFrom w.stream (w.expected + 1) w.batch) := by
  have hnumbers : ¬ (!w.batch.isEmpty && Double.maxInt64 < w.expected + w.batch.length) = true := by
    rcases h with hempty | hle
    · simp [hempty]
    · simp [Int.not_lt.mpr hle]
  unfold Batch.stamp
  rw [if_neg (Int.not_lt.mpr hexpected), if_neg hnumbers]

theorem stamp_of_not_numberable (hexpected : noStream ≤ w.expected) (h : ¬ w.Numberable) :
    Batch.stamp w.stream w.expected w.batch =
      .error (.conflict w.stream w.expected noStream) := by
  obtain ⟨hne, hlt⟩ := not_or.mp h
  have hnumbers : (!w.batch.isEmpty && Double.maxInt64 < w.expected + w.batch.length) = true := by
    simpa [hne] using Int.not_le.mp hlt
  unfold Batch.stamp
  rw [if_neg (Int.not_lt.mpr hexpected), if_pos hnumbers]

end Writing

theorem Ledger.append_of_numberable {l : Ledger} {w : Writing} (hopen : l.closed = false)
    (hversion : l.version w.stream = w.expected) (h : w.Numberable) :
    l.append w.stream w.expected w.batch =
      (.ok (w.expected + w.batch.length), l.extend w.stream w.batch) := by
  have hexpected := hversion ▸ l.noStream_le_version w.stream
  unfold append
  rw [if_neg (by simp [hopen]), if_neg (by simp [hversion]), Writing.stamp_of_numberable hexpected h]

theorem Ledger.append_of_not_numberable {l : Ledger} {w : Writing} (hopen : l.closed = false)
    (hversion : l.version w.stream = w.expected) (h : ¬ w.Numberable) :
    l.append w.stream w.expected w.batch =
      (.error (.conflict w.stream w.expected noStream), l) := by
  have hexpected := hversion ▸ l.noStream_le_version w.stream
  unfold append
  rw [if_neg (by simp [hopen]), if_neg (by simp [hversion]),
    Writing.stamp_of_not_numberable hexpected h]

/-! ### Writings one after the other -/

namespace MemoryStore

/-- Append to a store. -/
def write (s : MemoryStore) (w : Writing) : Except Fault Int × MemoryStore :=
  (s.append w.stream w.expected w.batch).value

/-- A store after some writings. -/
def writeAll (s : MemoryStore) : List Writing → MemoryStore
  | [] => s
  | w :: rest => writeAll (s.write w).2 rest

/-- The events that some writings add, in the order of their appending. -/
def placedAll (s : MemoryStore) : List Writing → List Event
  | [] => []
  | w :: rest => w.placed (s.write w).1 ++ placedAll (s.write w).2 rest

theorem writeAll_append (s : MemoryStore) (run more : List Writing) :
    s.writeAll (run ++ more) = (s.writeAll run).writeAll more := by
  induction run generalizing s with
  | nil => rfl
  | cons w rest ih => exact ih (s.write w).2

variable {s : MemoryStore} {w : Writing}

/-- What a writing does: it adds its batch to the stream, or it runs out of numbers, or it is told the
version that the stream has. -/
theorem write_cases (hopen : s.closed = false) :
    (w.expected = s.ledger.version w.stream ∧ w.Numberable ∧
      (s.write w).1 = .ok (w.expected + w.batch.length) ∧
      (s.write w).2.ledger = s.ledger.extend w.stream w.batch) ∨
    (w.expected = s.ledger.version w.stream ∧ ¬ w.Numberable ∧
      s.write w = (.error (.conflict w.stream w.expected noStream), s)) ∨
    (w.expected ≠ s.ledger.version w.stream ∧
      s.write w = (.error (.conflict w.stream w.expected (s.ledger.version w.stream)), s)) := by
  have hversion : s.log.version w.stream = s.ledger.version w.stream := s.log.version_eq w.stream
  by_cases hexpected : w.expected = s.ledger.version w.stream
  · by_cases hnumbers : w.Numberable
    · obtain ⟨hanswer, hledger⟩ := s.append_ledger w.stream w.expected w.batch
      rw [Ledger.append_of_numberable hopen hexpected.symm hnumbers] at hanswer hledger
      exact Or.inl ⟨hexpected, hnumbers, hanswer, hledger⟩
    · have hne : w.batch.isEmpty = false := by simpa using (not_or.mp hnumbers).1
      have hstamp := Writing.stamp_of_not_numberable
        (hexpected ▸ s.ledger.noStream_le_version w.stream) hnumbers
      refine Or.inr (Or.inl ⟨hexpected, hnumbers, ?_⟩)
      unfold write append
      rw [if_neg (by simp [hopen])]
      simp only [hversion, hexpected.symm, ne_eq, not_true_eq_false, if_false, hne,
        Bool.false_eq_true]
      split
      · rename_i f hf
        cases hf.symm.trans hstamp
        rfl
      · rename_i stamped hs
        cases hs.symm.trans hstamp
  · refine Or.inr (Or.inr ⟨hexpected, ?_⟩)
    unfold write append
    rw [if_neg (by simp [hopen])]
    simp only [hversion, ne_eq, Ne.symm hexpected, not_false_eq_true, if_true]
    rfl

/-- A writing adds to the log what its answer says. -/
theorem log_write (hopen : s.closed = false) (w : Writing) :
    (s.write w).2.ledger.log = s.ledger.log ++ w.placed (s.write w).1 := by
  rcases write_cases (w := w) hopen with ⟨hexpected, -, hanswer, hledger⟩ | ⟨-, -, heq⟩ | ⟨-, heq⟩
  · rw [hledger, hanswer]
    show _ ++ _ = _ ++ Batch.numberFrom w.stream (w.expected + 1) w.batch
    rw [hexpected]
  · rw [heq]
    exact (List.append_nil _).symm
  · rw [heq]
    exact (List.append_nil _).symm

/-- An open store whose streams are numbered. -/
structure Sound (s : MemoryStore) : Prop where
  isOpen : s.closed = false
  numbered : s.ledger.Numbered

theorem sound_new (buffer : Nat) : (new buffer).Sound :=
  ⟨rfl, Ledger.numbered_empty⟩

theorem Sound.write (h : s.Sound) (w : Writing) : (s.write w).2.Sound := by
  rcases write_cases (w := w) h.isOpen with ⟨-, -, -, hledger⟩ | ⟨-, -, heq⟩ | ⟨-, heq⟩
  · exact ⟨(congrArg Ledger.closed hledger).trans h.isOpen,
      hledger ▸ h.numbered.extend w.stream w.batch⟩
  · rw [heq]
    exact h
  · rw [heq]
    exact h

theorem Sound.writeAll (h : s.Sound) (run : List Writing) :
    (s.writeAll run).Sound ∧ (s.writeAll run).ledger.log = s.ledger.log ++ s.placedAll run := by
  induction run generalizing s with
  | nil => exact ⟨h, (List.append_nil _).symm⟩
  | cons w rest ih =>
      obtain ⟨hsound, hlog⟩ := ih (h.write w)
      refine ⟨hsound, hlog.trans ?_⟩
      rw [log_write h.isOpen, List.append_assoc]
      rfl

/-! ### What is read -/

/-- What reading a store tells where `log` is what was appended to it. -/
structure Streams (s : MemoryStore) (log : List Event) : Prop where
  readAll : (s.readAll .all).value = .ok log
  /-- A stream is what a filter picks from the log, and is read from any version on. -/
  read : ∀ (stream : String) (start : Int),
    (s.read stream start).value = .ok ((log.filter (·.stream == stream)).drop start.toNat)
  version : ∀ stream : String,
    (s.streamVersion stream).value = .ok ((log.filter (·.stream == stream)).length - 1)
  /-- The versions of a stream are 0, 1, 2 and so on. -/
  numbered : ∀ (stream : String) (i : Nat) (e : Event),
    (log.filter (·.stream == stream))[i]? = some e → e.version = i
  /-- No event stands in the log twice. -/
  once : log.Pairwise fun a b => ¬ (a.stream = b.stream ∧ a.version = b.version)

/-- What becomes of a writing to a stream of some version. -/
structure Decides (s : MemoryStore) (w : Writing) (current : Int) : Prop where
  done_iff : (∃ v, (s.write w).1 = .ok v) ↔ w.expected = current ∧ w.Numberable
  /-- Numbers do not run out before memory does. -/
  done_iff_of_room : ((s.log.length + w.batch.length : Nat) : Int) ≤ Double.maxInt64 →
    ((∃ v, (s.write w).1 = .ok v) ↔ w.expected = current)
  answer : ∀ v, (s.write w).1 = .ok v →
    v = w.expected + w.batch.length ∧ ((s.write w).2.streamVersion w.stream).value = .ok v
  unchanged : ∀ f, (s.write w).1 = .error f → (s.write w).2 = s
  conflict : w.expected ≠ current →
    (s.write w).1 = .error (.conflict w.stream w.expected current)

/-- Whatever is read from one store is read from another, with more behind it. -/
structure KeptIn (s later : MemoryStore) : Prop where
  read : ∀ (stream : String) (start : Int) (events : List Event),
    (s.read stream start).value = .ok events →
      ∃ added, (later.read stream start).value = .ok (events ++ added)
  readAll : ∀ events, (s.readAll .all).value = .ok events →
    ∃ added, (later.readAll .all).value = .ok (events ++ added)

namespace Sound

theorem value_whenOpen {α : Type} (h : s.Sound) (a : α) : (s.whenOpen a).value = .ok a :=
  (s.whenOpen_value a).trans (Ledger.answer_open h.isOpen a)

theorem streams (h : s.Sound) : s.Streams s.ledger.log where
  readAll := by
    have hall : s.ledger.log.filter EventFilter.all.passes = s.ledger.log :=
      List.filter_eq_self.mpr fun e _ => rfl
    exact (h.value_whenOpen _).trans (congrArg Except.ok hall)
  read stream start :=
    (h.value_whenOpen _).trans (congrArg Except.ok (s.log.read_eq stream start.toNat))
  version stream := (h.value_whenOpen _).trans (congrArg Except.ok (s.log.version_eq stream))
  numbered := h.numbered
  once := h.numbered.pairwise

theorem done_iff (h : s.Sound) :
    (∃ v, (s.write w).1 = .ok v) ↔ w.expected = s.ledger.version w.stream ∧ w.Numberable := by
  rcases write_cases (w := w) h.isOpen with
    ⟨hexpected, hnumbers, hanswer, -⟩ | ⟨-, hnumbers, heq⟩ | ⟨hexpected, heq⟩
  · exact ⟨fun _ => ⟨hexpected, hnumbers⟩, fun _ => ⟨_, hanswer⟩⟩
  · have hanswer := congrArg Prod.fst heq
    exact ⟨fun ⟨_, hv⟩ => (nomatch hanswer.symm.trans hv), fun hn => absurd hn.2 hnumbers⟩
  · have hanswer := congrArg Prod.fst heq
    exact ⟨fun ⟨_, hv⟩ => (nomatch hanswer.symm.trans hv), fun hn => absurd hn.1 hexpected⟩

/-- A log and a batch that fit in memory together have numbers enough. -/
theorem done_iff_of_room (h : s.Sound)
    (hroom : ((s.log.length + w.batch.length : Nat) : Int) ≤ Double.maxInt64) :
    (∃ v, (s.write w).1 = .ok v) ↔ w.expected = s.ledger.version w.stream := by
  refine h.done_iff.trans ⟨And.left, fun hexpected => ⟨hexpected, Or.inr ?_⟩⟩
  have hevents : (s.ledger.events w.stream).length ≤ s.log.length := List.length_filter_le ..
  rw [hexpected]
  unfold Ledger.version
  omega

theorem decides (h : s.Sound) {current : Int}
    (hcurrent : (s.streamVersion w.stream).value = .ok current) : s.Decides w current := by
  obtain rfl : s.ledger.version w.stream = current :=
    Except.ok.inj ((h.streams.version w.stream).symm.trans hcurrent)
  rcases write_cases (w := w) h.isOpen with
    ⟨hexpected, -, hanswer, hledger⟩ | ⟨hexpected, -, heq⟩ | ⟨-, heq⟩
  · refine ⟨h.done_iff, h.done_iff_of_room, fun v hv => ?_,
      fun f hf => (nomatch hanswer.symm.trans hf), absurd hexpected⟩
    obtain rfl := Except.ok.inj (hanswer.symm.trans hv)
    refine ⟨rfl, ((h.write w).streams.version w.stream).trans (congrArg Except.ok ?_)⟩
    show (s.write w).2.ledger.version w.stream = _
    rw [hledger, Ledger.version_extend, hexpected]
  · have hanswer := congrArg Prod.fst heq
    exact ⟨h.done_iff, h.done_iff_of_room, fun v hv => (nomatch hanswer.symm.trans hv),
      fun _ _ => congrArg Prod.snd heq, absurd hexpected⟩
  · have hanswer := congrArg Prod.fst heq
    exact ⟨h.done_iff, h.done_iff_of_room, fun v hv => (nomatch hanswer.symm.trans hv),
      fun _ _ => congrArg Prod.snd heq, fun _ => hanswer⟩

theorem keptIn_writeAll (h : s.Sound) (more : List Writing) : s.KeptIn (s.writeAll more) := by
  obtain ⟨hlater, hlog⟩ := h.writeAll more
  refine ⟨fun stream start events hread => ?_, fun events hread => ?_⟩
  · obtain rfl := Except.ok.inj ((h.streams.read stream start).symm.trans hread)
    rw [hlater.streams.read, hlog, List.filter_append, List.drop_append]
    exact ⟨_, rfl⟩
  · obtain rfl := Except.ok.inj (h.streams.readAll.symm.trans hread)
    rw [hlater.streams.readAll, hlog]
    exact ⟨_, rfl⟩

end Sound

/-- **The log in memory is a family of streams without gaps that only grow.**  After any writings to a
new store, the log is what they added, in that order, and each stream reads as its part of the log,
with the versions 0, 1, 2 and so on.  The next writing is done if it names the version of its stream,
and is refused with that version and without effect if not.  What was read is read at the same place
after any more writings. -/
theorem streams_without_gaps (buffer : Nat) (run : List Writing) :
    ((new buffer).writeAll run).Streams ((new buffer).placedAll run) ∧
      (∀ (next : Writing) (current : Int),
        (((new buffer).writeAll run).streamVersion next.stream).value = .ok current →
          ((new buffer).writeAll run).Decides next current) ∧
      ∀ more : List Writing,
        ((new buffer).writeAll run).KeptIn ((new buffer).writeAll (run ++ more)) := by
  obtain ⟨hsound, hlog⟩ := (sound_new buffer).writeAll run
  refine ⟨?_, fun next current => hsound.decides, fun more => ?_⟩
  · have hstreams := hsound.streams
    rw [hlog] at hstreams
    exact hstreams
  · rw [writeAll_append]
    exact hsound.keptIn_writeAll more

end MemoryStore

/-- An order in a shop. -/
def Event.order (n : Nat) : Event :=
  .new ⟨⟨n⟩, ⟨0, 0⟩⟩ "" "Ordered" (.obj [])

namespace MemoryStore

/-- Two orders at once, a batch for the stock, an order by a writer who missed the others, and an empty
batch. -/
def orderWritings : List Writing :=
  let order := Event.order
  [⟨"orders", -1, [order 1, order 2]⟩, ⟨"stock", -1, [order 3]⟩, ⟨"orders", -1, [order 4]⟩,
    ⟨"orders", 1, []⟩]

theorem orders_without_gaps :
    (((new 1).writeAll orderWritings).streamVersion "orders").value = .ok 1 ∧
      (((new 1).writeAll orderWritings).Decides ⟨"orders", 1, []⟩ 1) := by
  have hcurrent : (((new 1).writeAll orderWritings).streamVersion "orders").value = .ok 1 := by
    rfl
  exact ⟨hcurrent, (streams_without_gaps 1 orderWritings).2.1 ⟨"orders", 1, []⟩ 1 hcurrent⟩

end MemoryStore

end EventNet
