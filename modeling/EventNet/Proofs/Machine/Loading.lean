import EventNet.Proofs.Machine.Calls
import EventNet.Proofs.Machine.Tokens
import EventNet.Proofs.Store.Echo

/-!
Streams that can be loaded after a commit.

A commit appends its batch and only then applies it.  An event that cannot be applied is in the stream
by then, and stops every machine that loads the stream from its beginning.  So what a commit leaves can be
loaded if nothing was appended, or if the batch can be read back and the machine was ready for it as a
whole.

The events of a firing do not make it so.  Each of them was looked at alone, with the tokens that were there
before the batch: two that take the same token are both fired, and of the two only the first can be
applied.  One that gives to a place may also take it out of 64 bits, so that the next one finds nothing
there.  Where the events of a batch take from different places, no place leaves 64 bits on the way, and
each type leads back to the transition that was fired, a batch of fired events leaves a stream that can be
loaded.
-/

namespace EventNet.Machine

variable {σ : Type} {fresh m : Machine σ} {c : Client}

/-- Whether a machine loads its stream without a fault. -/
def Loads (m : Machine σ) (c : Client) : Prop :=
  ∃ n m', (Client.run m.load c).value.1 = (.ok n, m')

/-- A machine that a fresh one becomes by loading the stream, the user state aside. -/
structure InStep (fresh m : Machine σ) (c : Client) : Prop where
  start : fresh.version = noStream
  stream : m.stream = fresh.stream
  loaded : ∃ n state, (Client.run fresh.load c).value.1 = (.ok n, { m with state })

/-- What a client reads of a stream. -/
def history (c : Client) (stream : String) : Except Fault (List Event) :=
  (c.store.read stream 0).value.1

/-- A client after a commit, whatever that has answered. -/
def committed (m : Machine σ) (batch : List Event) (c : Client) : Client :=
  (Client.run (m.commit batch) c).value.2

theorem read_of_fresh (h : fresh.version = noStream) (c : Client) :
    (c.store.read fresh.stream (fresh.version + 1)).value.1 = history c fresh.stream := by
  rw [h]
  rfl

theorem loads_iff (h : fresh.version = noStream) (c : Client) :
    fresh.Loads c ↔ ∃ events, history c fresh.stream = .ok events ∧
      ∃ m', fresh.applyAll events = (.ok (), m') := by
  have hread := read_of_fresh h c
  unfold Loads
  cases hhistory : history c fresh.stream with
  | error f =>
      rw [run_load_of_fault (hread.trans hhistory)]
      constructor
      · rintro ⟨n, m', hload⟩
        cases hload
      · rintro ⟨events, hevents, -⟩
        cases hevents
  | ok events =>
      rw [run_load_of_read (hread.trans hhistory)]
      constructor
      · rintro ⟨n, m', hload⟩
        exact ⟨events, rfl, m', (of_answering_ok hload).2⟩
      · rintro ⟨events', hevents, m', happly⟩
        obtain rfl := Except.ok.inj hevents
        exact ⟨events.length, m', by rw [happly]; rfl⟩

/-- A machine that is in step applies what comes next where the fresh one does. -/
theorem InStep.history (h : InStep fresh m c) :
    ∃ events state, history c fresh.stream = .ok events ∧
      fresh.applyAll events = (.ok (), { m with state }) := by
  obtain ⟨n, state, hload⟩ := h.loaded
  have hread := read_of_fresh h.start c
  cases hhistory : Machine.history c fresh.stream with
  | error f =>
      rw [run_load_of_fault (hread.trans hhistory)] at hload
      cases hload
  | ok events =>
      rw [run_load_of_read (hread.trans hhistory)] at hload
      exact ⟨events, state, rfl, (of_answering_ok hload).2⟩

/-- After a commit the stream reads as before, or as before with the echo of the batch behind it. -/
theorem history_committed (m : Machine σ) (batch : List Event) (c : Client) :
    history (m.committed batch c) m.stream = history c m.stream ∨
      history (m.committed batch c) m.stream = (history c m.stream).bind fun events =>
        (c.store.echo (Batch.numberFrom m.stream (m.version + 1) batch)).map (events ++ ·) := by
  unfold committed history
  rcases Batch.stamp_cases m.stream m.version batch with hstamp | ⟨f, hstamp⟩
  · rw [run_commit_of_stamp hstamp c]
    dsimp only
    rcases Client.run_append m.stream m.version (Batch.numberFrom m.stream (m.version + 1) batch) c with
      ⟨-, hstore⟩ | ⟨-, hstore⟩
    · rw [hstore]
      exact Or.inl rfl
    · rw [hstore]
      rcases c.store.read_append m.stream m.version
          (Batch.numberFrom m.stream (m.version + 1) batch) with ⟨f, -, hsame⟩ | ⟨v, -, hlonger⟩
      · exact Or.inl (hsame m.stream 0)
      · rw [Batch.numberFrom_numberFrom] at hlonger
        exact Or.inr hlonger
  · unfold commit
    rw [hstamp]
    exact Or.inl rfl

/-- What reads as the stream of a machine in step is loaded. -/
theorem InStep.loads_of_same (h : InStep fresh m c) {c' : Client}
    (hsame : Machine.history c' fresh.stream = Machine.history c fresh.stream) : fresh.Loads c' := by
  obtain ⟨events, state, hevents, happlied⟩ := h.history
  exact (loads_iff h.start c').mpr ⟨events, hsame.trans hevents, _, happlied⟩

/-- A stream with more events behind it is loaded exactly when these can be read and the machine in step
is ready for them. -/
theorem InStep.loads_iff_ready (h : InStep fresh m c) (hsteady : m.Steady) (horderly : m.Orderly)
    {c' : Client} {later : Except Fault (List Event)}
    (hlonger : Machine.history c' fresh.stream =
      (Machine.history c fresh.stream).bind fun events => later.map (events ++ ·)) :
    fresh.Loads c' ↔ ∃ echoed, later = .ok echoed ∧ m.Ready (echoed.map (·.type)) := by
  obtain ⟨events, state, hevents, happlied⟩ := h.history
  rw [loads_iff h.start, hlonger, hevents]
  cases later with
  | error f =>
      constructor
      · rintro ⟨events', hread, -⟩
        cases hread
      · rintro ⟨echoed, hok, -⟩
        cases hok
  | ok echoed =>
      have hready := Steady.applyAll_iff (m := { m with state }) hsteady
        ⟨horderly.transitions, horderly.places⟩ echoed
      rw [ready_withState] at hready
      constructor
      · rintro ⟨events', heq, m', hall⟩
        obtain rfl := Except.ok.inj heq
        rw [applyAll_append happlied] at hall
        exact ⟨echoed, rfl, hready.mp ⟨m', hall⟩⟩
      · rintro ⟨echoed', hok, hlater⟩
        obtain rfl := Except.ok.inj hok
        obtain ⟨m', hall⟩ := hready.mpr hlater
        exact ⟨events ++ echoed, rfl, m', (applyAll_append happlied echoed).trans hall⟩

/-- A machine is ready for events that it has fired and that take from different places, where no place
leaves 64 bits. -/
theorem Distinguishes.ready (h : m.Distinguishes)
    (hgives : ∀ t ∈ m.transitions, ∀ q ∈ t.outputs, 0 ≤ q.2) {batch : List Event}
    (hfires : ∀ e ∈ batch, m.Fires e) (hapart : (batch.map (·.type)).Pairwise m.Apart)
    (hwithin : m.Within (batch.map (·.type))) :
    m.Ready (batch.map (·.type)) where
  known type htype := by
    obtain ⟨e, he, rfl⟩ := List.mem_map.mp htype
    exact (h.of_fires (hfires e he)).1
  covered := by
    refine covered_of_apart hgives (fun type htype => ?_) hapart hwithin
    obtain ⟨e, he, rfl⟩ := List.mem_map.mp htype
    exact (h.of_fires (hfires e he)).2

theorem types_of_numberFrom (stream : String) (version : Int) (batch : List Event) :
    (Batch.numberFrom stream version batch).map (·.type) = batch.map (·.type) := by
  induction batch generalizing version with
  | nil => rfl
  | cons e rest ih => simp only [Batch.numberFrom, List.map_cons, ih]

/-- A commit that succeeds has applied its batch. -/
theorem ready_of_committed (hsteady : m.Steady) (horderly : m.Orderly) {batch : List Event} {v : Int}
    {m' : Machine σ} (h : (Client.run (m.commit batch) c).value.1 = (.ok v, m')) :
    m.Ready (batch.map (·.type)) := by
  rcases Batch.stamp_cases m.stream m.version batch with hstamp | ⟨f, hstamp⟩
  · rw [run_commit_of_stamp hstamp c] at h
    unfold appended at h
    split at h
    · cases h
    · obtain ⟨-, happly⟩ := of_answering_ok h
      rw [← types_of_numberFrom m.stream (m.version + 1)]
      exact (hsteady.applyAll_iff horderly _).mp ⟨m', happly⟩
  · unfold commit at h
    rw [hstamp] at h
    cases h

/-- **What a commit leaves can be loaded exactly when nothing of it is in the stream, or when the batch
can be read back and the machine was ready for it.**  This holds of every machine whose handlers never
fail and that is in step with its stream.  A machine was ready for what it has committed without a fault.
It is ready for events that it has fired, if these take from different places and take no place out of
64 bits, no transition gives a negative number of tokens and each has its event type to itself. -/
theorem loads_committed_iff (h : InStep fresh m c) (hsteady : m.Steady) (horderly : m.Orderly)
    (batch : List Event) :
    (fresh.Loads (m.committed batch c) ↔
      history (m.committed batch c) m.stream = history c m.stream ∨
        ((∃ echoed, c.store.echo (Batch.numberFrom m.stream (m.version + 1) batch) = .ok echoed) ∧
          m.Ready (batch.map (·.type)))) ∧
    (∀ v m', (Client.run (m.commit batch) c).value.1 = (.ok v, m') → m.Ready (batch.map (·.type))) ∧
    (m.Distinguishes → (∀ t ∈ m.transitions, ∀ q ∈ t.outputs, 0 ≤ q.2) →
      (∀ e ∈ batch, m.Fires e) → (batch.map (·.type)).Pairwise m.Apart →
        m.Within (batch.map (·.type)) → m.Ready (batch.map (·.type))) := by
  refine ⟨?_, fun v m' => ready_of_committed hsteady horderly, fun hown hgives => hown.ready hgives⟩
  have htypes : ∀ {echoed : List Event},
      c.store.echo (Batch.numberFrom m.stream (m.version + 1) batch) = .ok echoed →
        echoed.map (·.type) = batch.map (·.type) := fun hecho =>
    (Store.types_of_echo hecho).trans (types_of_numberFrom ..)
  have hhistory := history_committed m batch c
  rw [h.stream] at hhistory htypes ⊢
  rcases hhistory with hsame | hlonger
  · exact ⟨fun _ => Or.inl hsame, fun _ => h.loads_of_same hsame⟩
  constructor
  · intro hloads
    obtain ⟨echoed, hecho, hready⟩ := (h.loads_iff_ready hsteady horderly hlonger).mp hloads
    exact Or.inr ⟨⟨echoed, hecho⟩, htypes hecho ▸ hready⟩
  · rintro (hsame | ⟨⟨echoed, hecho⟩, hready⟩)
    · exact h.loads_of_same hsame
    · exact (h.loads_iff_ready hsteady horderly hlonger).mpr ⟨echoed, hecho, htypes hecho ▸ hready⟩

/-! #### A desk that lends -/

/-- Lending takes a book. -/
def lend : Transition Nat :=
  ⟨"lend", "Lent", [("books", 1)], [("lent", 1)], [], none⟩

/-- Enrolling takes a card. -/
def enroll : Transition Nat :=
  ⟨"enroll", "Enrolled", [("cards", 1)], [], [], none⟩

/-- A desk with one book and one card, which counts what it has lent. -/
def desk : Machine Nat :=
  ((((Machine.new "desk" 0).place "books" 1).place "cards" 1).transition lend).transition enroll
    |>.on "Lent" fun n _ => (.ok (), n + 1)

/-- An event of the desk. -/
def deskEvent (n : Nat) (type : String) : Event :=
  { Event.new ⟨⟨n⟩, ⟨0, 0⟩⟩ "desk" type .null with version := 0 }

/-- A client of an empty store in memory. -/
def deskClient : Client :=
  .new (.memory (.new 1))

theorem inStep_desk : InStep desk desk deskClient :=
  ⟨rfl, rfl, 0, 0, rfl⟩

theorem steady_desk : desk.Steady := by
  intro entry hentry n e
  obtain rfl := List.mem_singleton.mp hentry
  rfl

theorem orderly_desk : desk.Orderly where
  transitions t ht := by
    rcases List.mem_pair.mp ht with rfl | rfl
    · exact ⟨List.pairwise_singleton _ _, List.pairwise_singleton _ _⟩
    · exact ⟨List.pairwise_singleton _ _, List.Pairwise.nil⟩
  places := by decide

/-- A book is lent and a card given out, and every place holds a small number on the way. -/
theorem within_desk : desk.Within ["Lent", "Enrolled"] := by
  have hsmall : ∀ table : Dict Int, (∀ e ∈ table, 0 ≤ e.2 ∧ e.2 ≤ 1) → ∀ place,
      0 ≤ count table place ∧ count table place ≤ 1 :=
    fun table h place => Dict.getD_of_forall (P := fun n => 0 ≤ n ∧ n ≤ 1) h (by decide) place
  intro before after heq place
  have hthere : 0 ≤ desk.tokens place ∧ desk.tokens place ≤ 1 := hsmall desk.places (by decide) place
  have hlent := hsmall lend.outputs (by decide) place
  have hbook := hsmall lend.inputs (by decide) place
  have hcard := hsmall enroll.inputs (by decide) place
  have hlend : desk.change "Lent" place = count lend.outputs place - count lend.inputs place := rfl
  have henroll : desk.change "Enrolled" place = 0 - count enroll.inputs place := rfl
  suffices -2 ≤ (before.map (desk.change · place)).sum ∧ (before.map (desk.change · place)).sum ≤ 1 by
    unfold Word.Fits Double.minInt64 Double.maxInt64
    omega
  rcases before with _ | ⟨a, _ | ⟨b, before⟩⟩
  · simp
  · obtain ⟨rfl, -⟩ := List.cons.inj heq
    simp only [List.map_cons, List.map_nil, List.sum_cons, List.sum_nil, hlend]
    omega
  · obtain ⟨rfl, htail⟩ := List.cons.inj heq
    obtain ⟨rfl, hend⟩ := List.cons.inj htail
    obtain ⟨rfl, -⟩ := List.append_eq_nil_iff.mp hend.symm
    simp only [List.map_cons, List.map_nil, List.sum_cons, List.sum_nil, hlend, henroll]
    omega

theorem desk_fires_lent (n : Nat) : desk.Fires (deskEvent n "Lent") :=
  ⟨⟨⟨n⟩, ⟨0, 0⟩⟩, "lend", .null, rfl⟩

theorem desk_distinguishes : desk.Distinguishes := by
  intro id t ht
  obtain ⟨i, hi, hget⟩ := Option.bind_eq_some_iff.mp ht
  have hentry : (id, i) ∈ [("enroll", 1), ("lend", 0)] := Dict.mem_of_get? hi
  rcases List.mem_pair.mp hentry with heq | heq
  · obtain rfl := congrArg Prod.snd heq
    obtain rfl : enroll = t := Option.some.inj hget
    rfl
  · obtain rfl := congrArg Prod.snd heq
    obtain rfl : lend = t := Option.some.inj hget
    rfl

/-- A book is lent and a card given out in one batch, and the desk can be loaded. -/
theorem loads_desk :
    desk.Loads (desk.committed [deskEvent 1 "Lent", deskEvent 2 "Enrolled"] deskClient) := by
  obtain ⟨hiff, -, hready⟩ := loads_committed_iff inStep_desk steady_desk orderly_desk
    [deskEvent 1 "Lent", deskEvent 2 "Enrolled"]
  refine hiff.mpr (Or.inr ⟨⟨_, rfl⟩, hready desk_distinguishes ?_ ?_ ?_ within_desk⟩)
  · intro t ht q hq
    rcases List.mem_pair.mp ht with rfl | rfl
    · obtain rfl := List.mem_singleton.mp hq
      decide
    · cases hq
  · intro e he
    rcases List.mem_pair.mp he with rfl | rfl
    · exact desk_fires_lent 1
    · exact ⟨⟨⟨2⟩, ⟨0, 0⟩⟩, "enroll", .null, rfl⟩
  · refine List.pairwise_pair.mpr fun t u ht hu q hq r hr => ?_
    obtain rfl : lend = t := Option.some.inj ht
    obtain rfl : enroll = u := Option.some.inj hu
    obtain rfl := List.mem_singleton.mp hq
    obtain rfl := List.mem_singleton.mp hr
    decide

/-- The one book is lent twice in one batch, and nobody can load the desk any more. -/
theorem lent_twice_not_loaded :
    InStep desk desk deskClient ∧ desk.Steady ∧
      (∀ e ∈ [deskEvent 1 "Lent", deskEvent 2 "Lent"], desk.Fires e) ∧
      ¬ desk.Loads (desk.committed [deskEvent 1 "Lent", deskEvent 2 "Lent"] deskClient) := by
  refine ⟨inStep_desk, steady_desk, ?_, ?_⟩
  · intro e he
    rcases List.mem_pair.mp he with rfl | rfl
    · exact desk_fires_lent 1
    · exact desk_fires_lent 2
  · rintro ⟨n, m', hload⟩
    have hfails : (Client.run desk.load
        (desk.committed [deskEvent 1 "Lent", deskEvent 2 "Lent"] deskClient)).value.1.1.isOk =
          false := by
      decide +kernel
    rw [hload] at hfails
    cases hfails

end EventNet.Machine
