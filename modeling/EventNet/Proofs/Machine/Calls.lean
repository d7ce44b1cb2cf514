import EventNet.Proofs.Machine.Folding
import EventNet.Proofs.Store.Backends
import EventNet.Store.Client

/-!
What loading and committing do, on a store that holds a ledger.

Both run as programs on the store of a client.  Loading applies what the ledger has of the stream beyond
the version of the machine.  A commit is refused and changes nothing, or the ledger is extended and the
machine applies the batch as it was numbered.  A machine that is not at the version of its stream is
always refused, whatever it commits.
-/

namespace EventNet

namespace Client

theorem run_bind {α β : Type} (p : Program α) (f : α → Program β) (c : Client) :
    (run (p >>= f) c).value = (run (f (run p c).value.1) (run p c).value.2).value := by
  show (run (p.andThen f) c).value = _
  induction p generalizing c with
  | done a => rfl
  | call k next ih => exact ih (answer k c).value.1 (answer k c).value.2
  | stamp next ih => exact ih (stampOf c.stamps) { c with stamps := c.stamps + 1 }
  | report signals next ih => exact ih c

/-- An append that was to be refused is, and any other is answered by the store. -/
theorem run_append (stream : String) (expected : Int) (batch : List Event) (c : Client) :
    ((run (Program.append stream expected batch) c).value.1 =
        .error (.conflict stream expected (expected + 1)) ∧
      (run (Program.append stream expected batch) c).value.2.store = c.store) ∨
    ((run (Program.append stream expected batch) c).value.1 =
        (c.store.append stream expected batch).value.1 ∧
      (run (Program.append stream expected batch) c).value.2.store =
        (c.store.append stream expected batch).value.2) := by
  show ((append stream expected batch c).value.1 = _ ∧
      (append stream expected batch c).value.2.store = _) ∨
    ((append stream expected batch c).value.1 = _ ∧
      (append stream expected batch c).value.2.store = _)
  unfold append
  split
  · exact Or.inl ⟨rfl, rfl⟩
  · exact Or.inr ⟨rfl, rfl⟩

theorem keeps_answer (k : StoreCall) (c : Client) (e : Event) :
    (answer k c).value.2.store.Keeps e ↔ c.store.Keeps e := by
  rcases c with ⟨s | ⟨connection, db⟩, stamps, appends, saves⟩
  all_goals
    cases k with
    | loadSnapshot => exact Iff.rfl
    | read => exact Iff.rfl
    | append stream expected batch =>
        show (append stream expected batch _).value.2.store.Keeps e ↔ _
        unfold append
        split <;> exact Iff.rfl
    | saveSnapshot x =>
        show (saveSnapshot x _).value.2.store.Keeps e ↔ _
        unfold saveSnapshot
        split <;> exact Iff.rfl

/-- A store stays of its kind, and so keeps the same events. -/
theorem keeps_run {α : Type} (p : Program α) (c : Client) (e : Event) :
    (run p c).value.2.store.Keeps e ↔ c.store.Keeps e := by
  induction p generalizing c with
  | done a => exact Iff.rfl
  | call k next ih =>
      exact (ih (answer k c).value.1 (answer k c).value.2).trans (keeps_answer k c e)
  | stamp next ih => exact ih (stampOf c.stamps) { c with stamps := c.stamps + 1 }
  | report signals next ih => exact ih c

end Client

/-- Numbering a batch again changes nothing. -/
theorem Batch.numberFrom_numberFrom (stream : String) (version : Int) (batch : List Event) :
    numberFrom stream version (numberFrom stream version batch) =
      numberFrom stream version batch := by
  induction batch generalizing version with
  | nil => rfl
  | cons e rest ih =>
      simp only [numberFrom, ih]
      rw [Instant.toMicrosecond_toMicrosecond]

namespace Machine

variable {σ : Type} {m : Machine σ} {c : Client} {l : Ledger}

theorem run_applyAll (m : Machine σ) (events : List Event) (c : Client) :
    (Client.run (m.tracedApplyAll events) c).value = (m.applyAll events, c) := by
  unfold tracedApplyAll
  rcases m.applyAll events with ⟨f | ⟨⟩, m'⟩ <;> rfl

/-- What loading answers when applying the events it has read had a result. -/
def answering {α : Type} (a : α) (result : Except Fault Unit × Machine σ) :
    Except Fault α × Machine σ :=
  (result.1.map fun _ => a, result.2)

theorem of_answering_ok {α : Type} {a b : α} {result : Except Fault Unit × Machine σ}
    {m' : Machine σ} (h : answering a result = (.ok b, m')) : a = b ∧ result = (.ok (), m') := by
  rcases result with ⟨f | ⟨⟩, m₁⟩
  · cases congrArg Prod.fst h
  · cases h
    exact ⟨rfl, rfl⟩

/-- Loading applies what is read from the version of the machine on. -/
theorem run_load_of_read {events : List Event}
    (h : (c.store.read m.stream (m.version + 1)).value.1 = .ok events) :
    (Client.run m.load c).value =
      (answering events.length (m.applyAll events),
        { c with store := (c.store.read m.stream (m.version + 1)).value.2 }) := by
  have hread : (Client.run (Program.read m.stream (m.version + 1)) c).value =
      (.ok events, { c with store := (c.store.read m.stream (m.version + 1)).value.2 }) :=
    Prod.ext h rfl
  unfold load
  rw [Client.run_bind, hread]
  dsimp only
  rw [Client.run_bind, run_applyAll]
  rcases m.applyAll events with ⟨f | ⟨⟩, m'⟩
  · rfl
  · rfl

theorem run_load_of_fault {f : Fault}
    (h : (c.store.read m.stream (m.version + 1)).value.1 = .error f) :
    (Client.run m.load c).value.1 = (.error f, m) := by
  have hread : (Client.run (Program.read m.stream (m.version + 1)) c).value =
      (.error f, { c with store := (c.store.read m.stream (m.version + 1)).value.2 }) :=
    Prod.ext h rfl
  unfold load
  rw [Client.run_bind, hread]
  rfl

/-- Loading applies the events that the machine has not seen. -/
theorem run_load (m : Machine σ) (h : c.store.Holds l) (hopen : l.closed = false) :
    (Client.run m.load c).value.1 =
        answering ((l.events m.stream).drop (m.version + 1).toNat).length
          (m.applyAll ((l.events m.stream).drop (m.version + 1).toNat)) ∧
      (Client.run m.load c).value.2.store.Holds l := by
  obtain ⟨hanswer, hholds⟩ := h.read m.stream (m.version + 1)
  rw [Ledger.read, Ledger.answer_open hopen] at hanswer
  rw [run_load_of_read hanswer]
  exact ⟨rfl, hholds⟩

/-- What a commit answers when its append had an answer. -/
def appended (m : Machine σ) (committed : List Event) :
    Except Fault Int → Except Fault Int × Machine σ
  | .error f => (.error f, m)
  | .ok version => answering version (m.applyAll committed)

theorem run_commit_of_stamp {batch committed : List Event}
    (hstamp : Batch.stamp m.stream m.version batch = .ok committed) (c : Client) :
    (Client.run (m.commit batch) c).value =
      (m.appended committed (Client.run (Program.append m.stream m.version committed) c).value.1,
        (Client.run (Program.append m.stream m.version committed) c).value.2) := by
  unfold commit
  rw [hstamp]
  dsimp only
  rw [Client.run_bind]
  rcases (Client.run (Program.append m.stream m.version committed) c).value with ⟨f | version, c'⟩
  · rfl
  · dsimp only
    rw [Client.run_bind, run_applyAll]
    unfold appended answering
    rcases m.applyAll committed with ⟨f | ⟨⟩, m'⟩ <;> rfl

theorem keeps_numberFrom {s : Store} {batch : List Event} (h : ∀ e ∈ batch, s.Keeps e)
    (stream : String) (version : Int) :
    ∀ e ∈ Batch.numberFrom stream version batch, s.Keeps e := by
  intro x hx
  obtain ⟨i, e, he, rfl⟩ := Batch.mem_numberFrom hx
  have hkept := h e (List.mem_of_getElem? he)
  cases s with
  | memory => exact trivial
  | database => exact hkept.place stream _

/-- A commit is refused without effect, or its events are appended and then applied. -/
theorem run_commit (m : Machine σ) (h : c.store.Holds l) (batch : List Event)
    (hkeeps : ∀ e ∈ batch, c.store.Keeps e) :
    (∃ f, (Client.run (m.commit batch) c).value.1 = (.error f, m) ∧
      (Client.run (m.commit batch) c).value.2.store.Holds l) ∨
    (l.version m.stream = m.version ∧
      (∃ v, (Client.run (m.commit batch) c).value.1 =
        answering v (m.applyAll (Batch.numberFrom m.stream (m.version + 1) batch))) ∧
      (Client.run (m.commit batch) c).value.2.store.Holds (l.extend m.stream batch)) := by
  rcases Batch.stamp_cases m.stream m.version batch with hstamp | ⟨f, hstamp⟩
  · rw [run_commit_of_stamp hstamp c]
    rcases Client.run_append m.stream m.version (Batch.numberFrom m.stream (m.version + 1) batch) c with
      ⟨hanswer, hstore⟩ | ⟨hanswer, hstore⟩
    · rw [hanswer, hstore]
      exact Or.inl ⟨_, rfl, h⟩
    · rw [hanswer, hstore]
      rcases h.append m.stream m.version (keeps_numberFrom hkeeps m.stream (m.version + 1)) with
        ⟨hledger, hholds⟩ | ⟨-, ⟨f, hrefused⟩, hholds⟩
      · rw [hledger]
        rcases l.append_cases m.stream m.version (Batch.numberFrom m.stream (m.version + 1) batch) with
          ⟨-, hversion, heq⟩ | ⟨f, heq⟩
        · refine Or.inr ⟨hversion, ⟨_, by rw [heq]; rfl⟩, ?_⟩
          rw [heq] at hholds
          have hextend : l.extend m.stream (Batch.numberFrom m.stream (m.version + 1) batch) =
              l.extend m.stream batch := by
            unfold Ledger.extend
            rw [hversion, Batch.numberFrom_numberFrom]
          exact hextend ▸ hholds
        · rw [heq] at hholds ⊢
          exact Or.inl ⟨f, rfl, hholds⟩
      · rw [hrefused]
        exact Or.inl ⟨f, rfl, hholds⟩
  · refine Or.inl ⟨f, ?_⟩
    unfold commit
    rw [hstamp]
    exact ⟨rfl, h⟩

/-- A machine that is not at the version of its stream is told of a conflict. -/
theorem run_commit_stale (h : c.store.Holds l) (hopen : l.closed = false)
    (hstale : l.version m.stream ≠ m.version) (batch : List Event) :
    (∃ actual, (Client.run (m.commit batch) c).value.1 =
        (.error (.conflict m.stream m.version actual), m)) ∧
      (Client.run (m.commit batch) c).value.2.store.Holds l := by
  rcases Batch.stamp_cases m.stream m.version batch with hstamp | ⟨f, hstamp⟩
  · rw [run_commit_of_stamp hstamp c]
    rcases Client.run_append m.stream m.version (Batch.numberFrom m.stream (m.version + 1) batch) c with
      ⟨hanswer, hstore⟩ | ⟨hanswer, hstore⟩
    · rw [hanswer, hstore]
      exact ⟨⟨_, rfl⟩, h⟩
    · obtain ⟨hconflict, hholds⟩ := h.append_stale hopen hstale
        (Batch.numberFrom m.stream (m.version + 1) batch)
      rw [hanswer, hstore, hconflict]
      exact ⟨⟨_, rfl⟩, hholds⟩
  · obtain rfl := Batch.fault_of_stamp hstamp
    unfold commit
    rw [hstamp]
    exact ⟨⟨_, rfl⟩, h⟩

end Machine

end EventNet
