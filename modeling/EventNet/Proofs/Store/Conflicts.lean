import EventNet.Proofs.Store.Interchange
import EventNet.Proofs.Store.Streams

/-!
When a database answers an append with a conflict.

A writer who names another version than the stream has is told of a conflict, with the version the stream
has.  The tables refuse more than that, for an identity can stand in one row only, whatever its stream.  A
batch with an identity that is taken, or that occurs twice in the batch, is answered with a conflict as well;
this one names the version that was expected as the one that was found, so that reading the stream again
and trying once more leads nowhere.  The third conflict is that of numbers that run out.

What is in the rows plays no part in this.  Whatever calls were made before, the rows are those of the
events that were accepted, and these tell everything.
-/

namespace EventNet

/-- Whether the identities of a log and of a batch behind it are all written differently. -/
def Writing.Distinct (w : Writing) (log : List Event) : Prop :=
  ((log ++ w.batch).map (·.id.text)).Nodup

namespace Tables

/-- Tables that were filled by appending, with nothing taken out of them or changed in them. -/
structure Filled (t : Tables) (l : Ledger) : Prop extends t.Lists l where
  refused : t.refusedTypes = []
  apart : l.log.Pairwise Event.Apart

variable {t : Tables} {l : Ledger} {w : Writing}

theorem apart_of_not_takes {log : List Event} {e : Event}
    (h : ¬ (log.map EventRow.ofEvent).any (takes · e) = true) : ∀ x ∈ log, x.Apart e := by
  intro x hx
  rw [Bool.not_eq_true, List.any_eq_false] at h
  have hfree := h (.ofEvent x) (List.mem_map_of_mem hx)
  simpa [takes, EventRow.ofEvent, Event.Apart] using hfree

/-- Events that were all inserted can stand in one table. -/
theorem apart_of_insertAll (hrefused : t.refusedTypes = []) (log : List Event)
    (hrows : t.events = log.map EventRow.ofEvent) (hlog : log.Pairwise Event.Apart)
    {batch : List Event} {t' : Tables} (h : t.insertAll batch = .ok t') :
    (log ++ batch).Pairwise Event.Apart := by
  induction batch generalizing t log with
  | nil => rwa [List.append_nil]
  | cons e rest ih =>
      rw [insertAll, insert_eq hrefused, hrows] at h
      by_cases htaken : (log.map EventRow.ofEvent).any (takes · e) = true
      · rw [if_pos htaken] at h
        cases h
      · rw [if_neg htaken] at h
        have hnext : (log ++ [e]).Pairwise Event.Apart := by
          refine List.pairwise_append.mpr ⟨hlog, List.pairwise_singleton _ _, fun x hx y hy => ?_⟩
          rw [List.mem_singleton.mp hy]
          exact apart_of_not_takes htaken x hx
        have hall := ih (t := { t with events := log.map EventRow.ofEvent ++ [EventRow.ofEvent e] })
          hrefused (log ++ [e]) (by simp) hnext h
        simpa using hall

/-- A numbered batch is inserted exactly if its identities are new and differ. -/
theorem Filled.insertAll_iff (h : t.Filled l) (hversion : w.expected = l.version w.stream) :
    (∃ t', t.insertAll (Batch.numberFrom w.stream (w.expected + 1) w.batch) = .ok t') ↔
      w.Distinct l.log := by
  rw [hversion]
  constructor
  · rintro ⟨t', hinsert⟩
    have hapart := apart_of_insertAll h.refused l.log h.events h.apart hinsert
    have htexts : ((l.extend w.stream w.batch).log.map (·.id.text)).Nodup :=
      List.pairwise_map.mpr (hapart.imp And.left)
    rwa [l.map_text_extend] at htexts
  · intro hdistinct
    exact ⟨_, insertAll_of_apart h.refused l.log h.events (h.numbered.apart hdistinct w.stream)⟩

theorem Filled.extend (h : t.Filled l) (hdistinct : w.Distinct l.log) :
    Filled { t with events := t.events ++
        (Batch.numberFrom w.stream (l.version w.stream + 1) w.batch).map EventRow.ofEvent }
      (l.extend w.stream w.batch) where
  events := by
    show t.events ++ _ = (l.log ++ _).map EventRow.ofEvent
    rw [h.events, List.map_append]
  numbered := h.numbered.extend w.stream w.batch
  refused := h.refused
  apart := h.numbered.apart hdistinct w.stream

/-- What tables make of a batch. -/
theorem Filled.appended_cases (h : t.Filled l) (w : Writing) :
    (w.expected ≠ l.version w.stream ∧
      Connection.appended t w.stream w.expected w.batch =
        .error (.conflict w.stream w.expected (l.version w.stream))) ∨
    (w.expected = l.version w.stream ∧ ¬ w.Numberable ∧
      Connection.appended t w.stream w.expected w.batch =
        .error (.conflict w.stream w.expected noStream)) ∨
    (w.expected = l.version w.stream ∧ w.Numberable ∧ ¬ w.Distinct l.log ∧
      Connection.appended t w.stream w.expected w.batch =
        .error (.conflict w.stream w.expected w.expected)) ∨
    (w.expected = l.version w.stream ∧ w.Numberable ∧ w.Distinct l.log ∧
      ∃ t', Connection.appended t w.stream w.expected w.batch =
          .ok (w.expected + w.batch.length, t',
            Batch.numberFrom w.stream (w.expected + 1) w.batch) ∧
        t'.Filled (l.extend w.stream w.batch)) := by
  unfold Connection.appended
  rw [h.currentVersion]
  by_cases hversion : w.expected = l.version w.stream
  swap
  · exact Or.inl ⟨hversion, by simp only [ne_eq, Ne.symm hversion, not_false_eq_true, if_true]⟩
  refine Or.inr ?_
  have hexpected : noStream ≤ w.expected := hversion ▸ l.noStream_le_version w.stream
  simp only [ne_eq, ← hversion, not_true_eq_false, if_false, true_and]
  cases hbatch : w.batch with
  | nil =>
      have hnumbers : w.Numberable := Or.inl hbatch
      have hdistinct : w.Distinct l.log := by
        unfold Writing.Distinct
        rw [hbatch, List.append_nil]
        exact List.pairwise_map.mpr (h.apart.imp And.left)
      refine Or.inr (Or.inr ⟨hnumbers, hdistinct, t, ?_, ?_⟩)
      · simp [Batch.numberFrom]
      · rw [Ledger.extend_nil]
        exact h
  | cons e rest =>
      rw [← hbatch]
      have hne : w.batch.isEmpty = false := by rw [hbatch]; rfl
      simp only [hne, Bool.false_eq_true, if_false]
      by_cases hnumbers : w.Numberable
      swap
      · rw [Writing.stamp_of_not_numberable hexpected hnumbers]
        exact Or.inl ⟨hnumbers, rfl⟩
      rw [Writing.stamp_of_numberable hexpected hnumbers]
      dsimp only
      have hiff := h.insertAll_iff hversion
      rcases insertAll_cases h.refused (Batch.numberFrom w.stream (w.expected + 1) w.batch) with
        hinsert | hinsert
      · have hdistinct := hiff.mp ⟨_, hinsert⟩
        refine Or.inr (Or.inr ⟨hnumbers, hdistinct, _, ?_, hversion ▸ h.extend hdistinct⟩)
        rw [hinsert, Batch.length_numberFrom]
      · refine Or.inr (Or.inl ⟨hnumbers, fun hdistinct => ?_, ?_⟩)
        · obtain ⟨t', hok⟩ := hiff.mpr hdistinct
          cases hinsert.symm.trans hok
        · rw [hinsert]

end Tables

/-! ### Runs of calls -/

/-- The events that a call adds to the log, by what it was answered. -/
def StoreOp.placed : StoreOp → Reply → List Event
  | .append stream expected batch, .version answer => Writing.placed ⟨stream, expected, batch⟩ answer
  | _, _ => []

namespace Store

/-- A store after some calls. -/
def afterCalls (s : Store) : List StoreOp → Store
  | [] => s
  | op :: rest => (s.perform op).2.afterCalls rest

/-- The events that some calls add to the log, in the order of their appending. -/
def accepted (s : Store) : List StoreOp → List Event
  | [] => []
  | op :: rest => op.placed (s.perform op).1 ++ (s.perform op).2.accepted rest

/-- A database whose tables, if there are any, were filled with a log. -/
def Filled : Store → List Event → Prop
  | .memory _, _ => False
  | .database _ db, log => ∀ t, db.tables = some t → t.Filled ⟨log, [], false⟩

theorem filled_new (buffer : Nat) : (database (.new buffer) .new).Filled [] := by
  intro t ht
  obtain rfl : Tables.empty = t := Option.some.inj ht
  exact ⟨⟨rfl, Ledger.numbered_empty⟩, rfl, List.Pairwise.nil⟩

variable {s : Store} {log : List Event}

theorem Filled.append (h : s.Filled log) (w : Writing) :
    (s.append w.stream w.expected w.batch).value.2.Filled
      (log ++ w.placed (s.append w.stream w.expected w.batch).value.1) := by
  cases s with
  | memory m => exact h.elim
  | database c db =>
      show (database (c.append db w.stream w.expected w.batch).value.2.1
          (c.append db w.stream w.expected w.batch).value.2.2).Filled
        (log ++ w.placed (c.append db w.stream w.expected w.batch).value.1)
      rcases c.append_cases db w.stream w.expected w.batch with
        ⟨f, heq⟩ | ⟨t, t', v, htables, happended, hanswer, htables'⟩
      · rw [heq]
        show (database c.settle db).Filled (log ++ [])
        rw [List.append_nil]
        exact h
      · intro t₀ ht₀
        obtain rfl : t' = t₀ := Option.some.inj ((Connection.tables_some htables').symm.trans ht₀)
        rw [hanswer]
        rcases (h t (Connection.tables_some htables)).appended_cases w with
          ⟨-, heq⟩ | ⟨-, -, heq⟩ | ⟨-, -, -, heq⟩ | ⟨hversion, -, -, t₁, heq, hfilled⟩
        · cases happended.symm.trans heq
        · cases happended.symm.trans heq
        · cases happended.symm.trans heq
        · cases happended.symm.trans heq
          unfold Ledger.extend at hfilled
          rw [← hversion] at hfilled
          exact hfilled

/-- Only appends change the events. -/
theorem Filled.perform (h : s.Filled log) (op : StoreOp) :
    (s.perform op).2.Filled (log ++ op.placed (s.perform op).1) := by
  cases s with
  | memory m => exact h.elim
  | database c db =>
      have hsnapshots : ∀ t snapshots, c.tables db = .ok t →
          Tables.Filled { t with snapshots } ⟨log, [], false⟩ := fun t snapshots ht =>
        have hfilled := h t (Connection.tables_some ht)
        ⟨⟨hfilled.events, hfilled.numbered⟩, hfilled.refused, hfilled.apart⟩
      cases op with
      | append stream expected batch => exact h.append ⟨stream, expected, batch⟩
      | saveSnapshot x =>
          show (waited c (c.saveSnapshot db x).value.2).Filled (log ++ [])
          rw [List.append_nil]
          unfold Connection.saveSnapshot
          cases ht : c.tables db with
          | error f => exact h
          | ok t =>
              intro t' ht'
              obtain rfl := Option.some.inj ht'
              exact hsnapshots t _ ht
      | deleteSnapshot stream =>
          show (waited c (c.deleteSnapshot db stream).value.2).Filled (log ++ [])
          rw [List.append_nil]
          unfold Connection.deleteSnapshot
          cases ht : c.tables db with
          | error f => exact h
          | ok t =>
              intro t' ht'
              obtain rfl := Option.some.inj ht'
              exact hsnapshots t _ ht
      | _ =>
          show (database _ db).Filled (log ++ [])
          rw [List.append_nil]
          exact h

/-- After any calls the tables are filled with what was accepted. -/
theorem Filled.afterCalls (h : s.Filled log) (ops : List StoreOp) :
    (s.afterCalls ops).Filled (log ++ s.accepted ops) := by
  induction ops generalizing s log with
  | nil =>
      rw [accepted, List.append_nil]
      exact h
  | cons op rest ih =>
      rw [accepted, ← List.append_assoc]
      exact ih (h.perform op)

/-! ### Conflicts -/

/-- What becomes of a writing to a stream of some version, behind a log. -/
structure Judges (s : Store) (log : List Event) (w : Writing) (current : Int) : Prop where
  /-- Every refusal is a conflict. -/
  refused : ∀ f, (s.append w.stream w.expected w.batch).value.1 = .error f →
    ∃ actual, f = .conflict w.stream w.expected actual
  conflict_iff : ∀ actual, (s.append w.stream w.expected w.batch).value.1 =
      .error (.conflict w.stream w.expected actual) ↔
    (w.expected ≠ current ∧ actual = current) ∨
    (w.expected = current ∧ ¬ w.Numberable ∧ actual = noStream) ∨
    (w.expected = current ∧ w.Numberable ∧ ¬ w.Distinct log ∧ actual = current)
  done_iff : (s.append w.stream w.expected w.batch).value.1 =
      .ok (w.expected + w.batch.length) ↔
    w.expected = current ∧ w.Numberable ∧ w.Distinct log
  /-- New identities and enough numbers leave only the version. -/
  refused_iff : w.Numberable → w.Distinct log →
    ((∃ f, (s.append w.stream w.expected w.batch).value.1 = .error f) ↔ w.expected ≠ current)

variable {w : Writing} {current : Int}

/-- The four answers to an append. -/
theorem Filled.append_cases (h : s.Filled log)
    (hcurrent : (s.streamVersion w.stream).value.1 = .ok current) :
    (w.expected ≠ current ∧ (s.append w.stream w.expected w.batch).value.1 =
      .error (.conflict w.stream w.expected current)) ∨
    (w.expected = current ∧ ¬ w.Numberable ∧ (s.append w.stream w.expected w.batch).value.1 =
      .error (.conflict w.stream w.expected noStream)) ∨
    (w.expected = current ∧ w.Numberable ∧ ¬ w.Distinct log ∧
      (s.append w.stream w.expected w.batch).value.1 =
        .error (.conflict w.stream w.expected current)) ∨
    (w.expected = current ∧ w.Numberable ∧ w.Distinct log ∧
      (s.append w.stream w.expected w.batch).value.1 = .ok (w.expected + w.batch.length)) := by
  cases s with
  | memory m => exact h.elim
  | database c db =>
      obtain ⟨t, ht, hversion⟩ : ∃ t, c.tables db = .ok t ∧ t.currentVersion w.stream = current := by
        have hask : (c.streamVersion db w.stream).value = .ok current := hcurrent
        unfold Connection.streamVersion Connection.ask at hask
        cases ht : c.tables db with
        | error f =>
            rw [ht] at hask
            cases hask
        | ok t =>
            rw [ht] at hask
            exact ⟨t, rfl, Except.ok.inj hask⟩
      have hfilled := h t (Connection.tables_some ht)
      rw [hfilled.currentVersion] at hversion
      have hanswer : ((database c db).append w.stream w.expected w.batch).value.1 =
          (Connection.appended t w.stream w.expected w.batch).map (·.1) :=
        Connection.append_answer ht ..
      have hcases := hfilled.appended_cases w
      rw [hversion] at hcases
      rw [hanswer]
      rcases hcases with
        ⟨hne, heq⟩ | ⟨hexpected, hnumbers, heq⟩ | ⟨hexpected, hnumbers, htaken, heq⟩ |
          ⟨hexpected, hnumbers, hdistinct, t', heq, -⟩
      · exact Or.inl ⟨hne, by rw [heq]; rfl⟩
      · exact Or.inr (Or.inl ⟨hexpected, hnumbers, by rw [heq]; rfl⟩)
      · exact Or.inr (Or.inr (Or.inl ⟨hexpected, hnumbers, htaken, by rw [heq, hexpected]; rfl⟩))
      · exact Or.inr (Or.inr (Or.inr ⟨hexpected, hnumbers, hdistinct, by rw [heq]; rfl⟩))

theorem Filled.judges (h : s.Filled log)
    (hcurrent : (s.streamVersion w.stream).value.1 = .ok current) : s.Judges log w current := by
  have hrefused : ∀ {answer : Except Fault Int} {actual : Int},
      answer = .error (.conflict w.stream w.expected actual) →
        ∀ f, answer = .error f → ∃ actual, f = .conflict w.stream w.expected actual :=
    fun hanswer f hf => ⟨_, (Except.error.inj (hanswer.symm.trans hf)).symm⟩
  rcases h.append_cases hcurrent with
    ⟨hne, heq⟩ | ⟨hexpected, hnumbers, heq⟩ | ⟨hexpected, hnumbers, htaken, heq⟩ |
      ⟨hexpected, hnumbers, hdistinct, heq⟩
  · refine ⟨hrefused heq, fun actual => ?_, ?_, fun _ _ => ?_⟩ <;> rw [heq]
    · simp [hne, eq_comm]
    · simp [hne]
    · simp [hne]
  · subst hexpected
    refine ⟨hrefused heq, fun actual => ?_, ?_, fun hn => absurd hn hnumbers⟩ <;> rw [heq]
    · simp [hnumbers, eq_comm]
    · simp [hnumbers]
  · subst hexpected
    refine ⟨hrefused heq, fun actual => ?_, ?_, fun _ hd => absurd hd htaken⟩ <;> rw [heq]
    · simp [hnumbers, htaken, eq_comm]
    · simp [htaken]
  · subst hexpected
    refine ⟨fun f hf => (nomatch heq.symm.trans hf), fun actual => ?_, ?_, fun _ _ => ?_⟩ <;> rw [heq]
    · simp [hnumbers, hdistinct]
    · simp [hnumbers, hdistinct]
    · simp

/-- **A conflict is a version that differs, numbers that run out, or an identity that is taken.**  After
any calls to a new database, as long as the version of a stream is answered, an append to it is answered
with a conflict in these three cases and is done in every other.  An identity that is taken is reported
with the version that was expected. -/
theorem conflict_iff (buffer : Nat) (ops : List StoreOp) (w : Writing) {current : Int}
    (hcurrent : (((database (.new buffer) .new).afterCalls ops).streamVersion w.stream).value.1 =
      .ok current) :
    ((database (.new buffer) .new).afterCalls ops).Judges
      ((database (.new buffer) .new).accepted ops) w current :=
  ((filled_new buffer).afterCalls ops).judges hcurrent

/-- An order is placed twice under one identity. -/
def orderTwice : Writing :=
  ⟨"orders", 0, [Event.order 1]⟩

/-- The calls before it. -/
def orderedOnce : List StoreOp :=
  [.append "orders" (-1) [Event.order 1]]

theorem judges_orders :
    ((database (.new 1) .new).afterCalls orderedOnce).Judges
      ((database (.new 1) .new).accepted orderedOnce) orderTwice 0 :=
  conflict_iff 1 orderedOnce orderTwice rfl

/-- The stream is at the version expected, and the conflict says so. -/
theorem conflict_at_expected :
    (((database (.new 1) .new).afterCalls orderedOnce).streamVersion orderTwice.stream).value.1 =
        .ok orderTwice.expected ∧
      (((database (.new 1) .new).afterCalls orderedOnce).append orderTwice.stream
        orderTwice.expected orderTwice.batch).value.1 =
          .error (.conflict orderTwice.stream orderTwice.expected orderTwice.expected) :=
  ⟨rfl, rfl⟩

end Store

end EventNet
