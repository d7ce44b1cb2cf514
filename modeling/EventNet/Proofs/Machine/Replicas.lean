import EventNet.Machine.Fields
import EventNet.Proofs.Machine.Calls

/-!
Several machines on one stream.

Machines of one kind commit to their stream and load from it, in any order.  A commit first appends and
then applies what it has appended, a load applies what is read, and both can stop at an event that cannot
be applied.  Each call takes a machine from one place of the stream to another by the events between
them (`Replicas.along_perform`), so at any time each machine is what the events up to its version make of
a fresh one.

This needs a store that answers events as they were handed to it, since the machine that commits applies
what it has handed in and the others apply what they read.  A database reads some numbers inexactly, and
there two machines at one version can differ.
-/

namespace EventNet

/-- Machines and the client of their store. -/
structure Replicas (σ : Type) where
  client : Client
  machines : List (Machine σ)

namespace Replicas

variable {σ : Type}

/-- What a machine does next. -/
inductive Move where
  | commit (batch : List Event)
  | load

/-- The events that a move commits. -/
def Move.batch : Move → List Event
  | .commit batch => batch
  | .load => []

/-- A machine and its client after a move. -/
def perform (m : Machine σ) (c : Client) : Move → Machine σ × Client
  | .commit batch =>
    ((Client.run (m.commit batch) c).value.1.2, (Client.run (m.commit batch) c).value.2)
  | .load => ((Client.run m.load c).value.1.2, (Client.run m.load c).value.2)

/-- Replicas after a move of one of them. -/
def step (r : Replicas σ) (i : Nat) (move : Move) : Replicas σ :=
  match r.machines[i]? with
  | none => r
  | some m => ⟨(perform m r.client move).2, r.machines.set i (perform m r.client move).1⟩

/-- Replicas after some moves. -/
def run (r : Replicas σ) : List (Nat × Move) → Replicas σ
  | [] => r
  | (i, move) :: rest => run (r.step i move) rest

/-- Some fresh machines. -/
def start (fresh : Machine σ) (client : Client) (count : Nat) : Replicas σ :=
  ⟨client, List.replicate count fresh⟩

/-! ### What a move does -/

theorem keeps_perform (m : Machine σ) (c : Client) (move : Move) (e : Event) :
    (perform m c move).2.store.Keeps e ↔ c.store.Keeps e := by
  cases move with
  | commit batch => exact Client.keeps_run _ c e
  | load => exact Client.keeps_run _ c e

variable {fresh m : Machine σ} {c : Client} {l : Ledger}

/-- One call takes a machine along its stream, which may have become longer. -/
structure Along (fresh m : Machine σ) (l : Ledger) (next : Machine σ × Client) (l' : Ledger) :
    Prop where
  holds : next.2.store.Holds l'
  isOpen : l'.closed = false
  numbered : l'.Numbered
  longer : l.events fresh.stream <+: l'.events fresh.stream
  replays : Machine.Replays fresh (l'.events fresh.stream) next.1
  advanced : m.applyAll (((l'.events fresh.stream).take (next.1.version + 1).toNat).drop
    (m.version + 1).toNat) = (.ok (), next.1)

/-- A machine that stays where it is has nothing to apply. -/
theorem along_same {c' : Client} (h : c'.store.Holds l) (hopen : l.closed = false) (hn : l.Numbered)
    (hm : Machine.Replays fresh (l.events fresh.stream) m) : Along fresh m l (m, c') l where
  holds := h
  isOpen := hopen
  numbered := hn
  longer := List.prefix_rfl
  replays := hm
  advanced := by
    rw [List.drop_of_length_le (List.length_take_le ..)]
    rfl

/-- A machine that applies all it has not seen goes along the stream as far as that succeeds. -/
theorem along_applyAll {c' : Client} {l' : Ledger} (h : c'.store.Holds l') (hopen : l'.closed = false)
    (hn : l'.Numbered) (hlonger : l.events fresh.stream <+: l'.events fresh.stream)
    (hm : Machine.Replays fresh (l.events fresh.stream) m) :
    Along fresh m l
      ((m.applyAll ((l'.events fresh.stream).drop (m.version + 1).toNat)).2, c') l' := by
  obtain ⟨later, hlater⟩ := hlonger
  have hm' : Machine.Replays fresh (l'.events fresh.stream) m := hlater ▸ hm.append later
  have hcaught := hm'.applyAll (hn fresh.stream)
  exact ⟨h, hopen, hn, ⟨later, hlater⟩, hcaught.replays, hcaught.advanced⟩

theorem along_perform (h : c.store.Holds l) (hopen : l.closed = false) (hn : l.Numbered)
    (hm : Machine.Replays fresh (l.events fresh.stream) m) {move : Move}
    (hkeeps : ∀ e ∈ move.batch, c.store.Keeps e) :
    ∃ l', Along fresh m l (perform m c move) l' := by
  cases move with
  | load =>
      obtain ⟨hanswer, hholds⟩ := Machine.run_load m h hopen
      refine ⟨l, ?_⟩
      show Along fresh m l ((Client.run m.load c).value.1.2, (Client.run m.load c).value.2) l
      rw [hanswer, hm.stream]
      exact along_applyAll hholds hopen hn List.prefix_rfl hm
  | commit batch =>
      rcases Machine.run_commit m h batch hkeeps with
        ⟨f, hanswer, hholds⟩ | ⟨hversion, ⟨v, hanswer⟩, hholds⟩
      · refine ⟨l, ?_⟩
        show Along fresh m l
          ((Client.run (m.commit batch) c).value.1.2, (Client.run (m.commit batch) c).value.2) l
        rw [hanswer]
        exact along_same hholds hopen hn hm
      · have hevents : (l.extend m.stream batch).events fresh.stream =
            l.events fresh.stream ++ Batch.numberFrom m.stream (m.version + 1) batch := by
          rw [← hm.stream, Ledger.events_extend_self, hversion]
        have hunseen : ((l.extend m.stream batch).events fresh.stream).drop (m.version + 1).toNat =
            Batch.numberFrom m.stream (m.version + 1) batch := by
          have hseen : (m.version + 1).toNat = (l.events fresh.stream).length := by
            rw [← hversion, hm.stream]
            unfold Ledger.version
            omega
          rw [hevents, hseen, List.drop_left]
        refine ⟨l.extend m.stream batch, ?_⟩
        show Along fresh m l
          ((Client.run (m.commit batch) c).value.1.2, (Client.run (m.commit batch) c).value.2) _
        rw [hanswer, ← hunseen]
        exact along_applyAll hholds hopen (hn.extend m.stream batch)
          ⟨_, hevents.symm⟩ hm

/-! ### Agreement -/

/-- Replicas on an open store with a ledger, each of them a fold over its stream. -/
structure Sound (r : Replicas σ) (fresh : Machine σ) (l : Ledger) : Prop where
  holds : r.client.store.Holds l
  isOpen : l.closed = false
  numbered : l.Numbered
  replays : ∀ m ∈ r.machines, Machine.Replays fresh (l.events fresh.stream) m

variable {r : Replicas σ}

theorem Sound.step (h : r.Sound fresh l) (i : Nat) {move : Move}
    (hkeeps : ∀ e ∈ move.batch, r.client.store.Keeps e) : ∃ l', (r.step i move).Sound fresh l' := by
  unfold Replicas.step
  cases hm : r.machines[i]? with
  | none => exact ⟨l, h⟩
  | some m =>
      obtain ⟨l', halong⟩ :=
        along_perform h.holds h.isOpen h.numbered (h.replays m (List.mem_of_getElem? hm)) hkeeps
      refine ⟨l', halong.holds, halong.isOpen, halong.numbered, fun m' hm' => ?_⟩
      rcases List.mem_or_eq_of_mem_set hm' with hold | rfl
      · obtain ⟨later, hlater⟩ := halong.longer
        exact hlater ▸ (h.replays m' hold).append later
      · exact halong.replays

theorem keeps_step (r : Replicas σ) (i : Nat) (move : Move) (e : Event) :
    (r.step i move).client.store.Keeps e ↔ r.client.store.Keeps e := by
  unfold step
  cases r.machines[i]? with
  | none => exact Iff.rfl
  | some m => exact keeps_perform m r.client move e

theorem Sound.run (h : r.Sound fresh l) {moves : List (Nat × Move)}
    (hkeeps : ∀ p ∈ moves, ∀ e ∈ p.2.batch, r.client.store.Keeps e) :
    ∃ l', (r.run moves).Sound fresh l' := by
  induction moves generalizing r l with
  | nil => exact ⟨l, h⟩
  | cons p rest ih =>
      obtain ⟨hfirst, hrest⟩ := List.forall_mem_cons.mp hkeeps
      obtain ⟨l₁, h₁⟩ := h.step p.1 hfirst
      exact ih h₁ fun q hq e he => (r.keeps_step p.1 p.2 e).mpr (hrest q hq e he)

/-- What holds of machines on one stream, and of what each of them does next. -/
structure Agree (r : Replicas σ) (fresh : Machine σ) : Prop where
  consecutive : Machine.Consecutive (r.client.store.stream fresh.stream)
  version : (r.client.store.streamVersion fresh.stream).value.1 =
    .ok ((r.client.store.stream fresh.stream).length - 1)
  /-- Each machine is what the events up to its version make of a fresh one. -/
  replays : ∀ m ∈ r.machines, Machine.Replays fresh (r.client.store.stream fresh.stream) m
  /-- A move applies the events between two versions, none of them twice and none left out. -/
  advanced : ∀ m ∈ r.machines, ∀ move : Move, (∀ e ∈ move.batch, r.client.store.Keeps e) →
    m.applyAll ((((perform m r.client move).2.store.stream fresh.stream).take
      ((perform m r.client move).1.version + 1).toNat).drop (m.version + 1).toNat) =
        (.ok (), (perform m r.client move).1)
  /-- A machine that is behind its stream commits nothing. -/
  stale : ∀ m ∈ r.machines, m.version ≠ (r.client.store.stream fresh.stream).length - 1 →
    ∀ batch, (∃ actual, (Client.run (m.commit batch) r.client).value.1 =
        (.error (.conflict m.stream m.version actual), m)) ∧
      (Client.run (m.commit batch) r.client).value.2.store.stream = r.client.store.stream
  /-- A machine that has been loaded is at the end, and has nothing left to load. -/
  loaded : ∀ m ∈ r.machines, ∀ (n : Nat) (m' : Machine σ),
    (Client.run m.load r.client).value.1 = (.ok n, m') →
      m'.version = (r.client.store.stream fresh.stream).length - 1 ∧
        (Client.run m'.load (Client.run m.load r.client).value.2).value.1 = (.ok 0, m')

/-- A load that succeeds has nothing more to apply. -/
theorem Sound.loaded (h : r.Sound fresh l) (hm : m ∈ r.machines) {n : Nat} {m' : Machine σ}
    (hload : (Client.run m.load r.client).value.1 = (.ok n, m')) :
    m'.version = (l.events fresh.stream).length - 1 ∧
      (Client.run m'.load (Client.run m.load r.client).value.2).value.1 = (.ok 0, m') := by
  have hreplays := h.replays m hm
  obtain ⟨hanswer, hholds⟩ := Machine.run_load m h.holds h.isOpen
  rw [hreplays.stream, hload] at hanswer
  obtain ⟨-, hresult⟩ := Machine.of_answering_ok hanswer.symm
  have hcaught := hreplays.applyAll (h.numbered fresh.stream)
  rw [hresult] at hcaught
  have hend : m'.version = (l.events fresh.stream).length - 1 := hcaught.finished rfl
  refine ⟨hend, ?_⟩
  rw [(Machine.run_load m' hholds h.isOpen).1, hcaught.replays.stream, hend,
    List.drop_of_length_le (by omega)]
  rfl

/-- A machine that is behind its stream changes nothing by a commit. -/
theorem Sound.stale (h : r.Sound fresh l) (hm : m ∈ r.machines)
    (hbehind : m.version ≠ (l.events fresh.stream).length - 1) (batch : List Event) :
    (∃ actual, (Client.run (m.commit batch) r.client).value.1 =
        (.error (.conflict m.stream m.version actual), m)) ∧
      (Client.run (m.commit batch) r.client).value.2.store.stream = r.client.store.stream := by
  have hstale : l.version m.stream ≠ m.version := by
    rw [(h.replays m hm).stream]
    exact hbehind.symm
  obtain ⟨hconflict, hholds⟩ := Machine.run_commit_stale h.holds h.isOpen hstale batch
  exact ⟨hconflict, funext fun id =>
    (hholds.stream h.isOpen id).trans (h.holds.stream h.isOpen id).symm⟩

theorem Sound.agree (h : r.Sound fresh l) : r.Agree fresh := by
  have hstream := h.holds.stream h.isOpen fresh.stream
  constructor
  case advanced =>
    intro m hm move hkeeps
    obtain ⟨l', halong⟩ := along_perform h.holds h.isOpen h.numbered (h.replays m hm) hkeeps
    rw [halong.holds.stream halong.isOpen]
    exact halong.advanced
  all_goals rw [hstream]
  case consecutive => exact h.numbered fresh.stream
  case version =>
    exact (h.holds.streamVersion fresh.stream).1.trans (Ledger.answer_open h.isOpen _)
  case replays => exact h.replays
  case stale => exact fun m hm => h.stale hm
  case loaded => exact fun m hm n m' => h.loaded hm

/-- **Replicas agree with their stream.**  Fresh machines of one kind, whose handlers leave the state
alone when they fail, commit and load in any order on a store that answers events as it was given
them.  Then each machine is what the events up to its version make of a fresh one, whatever has
failed. -/
theorem agree_run {client : Client} (hl : client.store.Holds l) (hopen : l.closed = false)
    (hn : l.Numbered) (hversion : fresh.version = noStream) (hcareful : fresh.Careful) (count : Nat)
    {moves : List (Nat × Move)}
    (hkeeps : ∀ p ∈ moves, ∀ e ∈ p.2.batch, client.store.Keeps e) :
    ((start fresh client count).run moves).Agree fresh := by
  have hstart : (start fresh client count).Sound fresh l := by
    refine ⟨hl, hopen, hn, fun m hm => ?_⟩
    rw [List.eq_of_mem_replicate hm]
    exact Machine.replays_fresh hversion hcareful _
  obtain ⟨l', h⟩ := hstart.run hkeeps
  exact h.agree

/-! #### A tally of what has a payload -/

/-- A machine that counts events, and cannot count one without a payload. -/
def tally : Machine Nat :=
  (Machine.new "tally" 0).on "Counted" fun n e =>
    match e.data with
    | .null => (.error (.internal "nothing to count"), n)
    | _ => (.ok (), n + 1)

theorem careful_tally : tally.Careful := by
  intro entry hentry n e f n' hf
  obtain rfl := List.mem_singleton.mp hentry
  dsimp only at hf
  split at hf
  · exact (congrArg Prod.snd hf).symm
  · cases hf

/-- An event for the tally. -/
def counted (n : Nat) (data : Json) : Event :=
  .new ⟨⟨n⟩, ⟨0, 0⟩⟩ "tally" "Counted" data

/-- The first machine stops in the middle of its batch, the second one there as well, and neither can
commit any more. -/
def tallyMoves : List (Nat × Move) :=
  [(0, .commit [counted 1 (.obj []), counted 2 .null, counted 3 (.obj [])]), (1, .load), (0, .load),
    (1, .commit [counted 4 (.obj [])])]

theorem agree_tally :
    (((start tally (.new (.memory (.new 1))) 2).run tallyMoves).machines.map fun m =>
        (m.state, m.version)) = [(1, 0), (1, 0)] ∧
      ((start tally (.new (.memory (.new 1))) 2).run tallyMoves).Agree tally :=
  ⟨by decide +kernel,
    agree_run (Store.holds_memory_new 1) rfl Ledger.numbered_empty rfl careful_tally 2
      fun _ _ _ _ => trivial⟩

/-! #### A number that is read inexactly -/

/-- A machine that keeps its last payload. -/
def gauge : Machine Fields :=
  (Machine.new "gauge" .empty).on "Measured" fun u e => (.ok (), u.set "n" e.data)

/-- The bits of the number that is kept. -/
def readingBits? (m : Machine Fields) : Option UInt64 :=
  (m.state.values.get? "n").bind fun
    | .double x => some x.toBits
    | _ => none

/-- A measurement whose text a database reads as another number. -/
def measurement : Event :=
  .new ⟨⟨1⟩, ⟨0, 0⟩⟩ "gauge" "Measured" (.double 3e23)

/-- One machine commits the measurement to a database, another one loads it. -/
def measured : Replicas Fields :=
  (start gauge (.new (.database (.new 1) .new)) 2).run [(0, .commit [measurement]), (1, .load)]

theorem committed_unlike_loaded :
    gauge.Careful ∧
      ∃ m ∈ measured.machines,
        ¬ Machine.Replays gauge (measured.client.store.stream "gauge") m := by
  have hcareful : gauge.Careful := by
    intro entry hentry u e f u' hf
    obtain rfl := List.mem_singleton.mp hentry
    cases hf
  have hfar : measured.machines.any (fun m => m.version == 0 && readingBits? m != readingBits?
      (gauge.applyAll ((measured.client.store.stream "gauge").take 1)).2) = true := by
    decide +kernel
  obtain ⟨m, hm, hany⟩ := List.any_eq_true.mp hfar
  obtain ⟨hversion, hbits⟩ := Bool.and_eq_true_iff.mp hany
  refine ⟨hcareful, m, hm, fun hreplays => ?_⟩
  have happlied := hreplays.applied
  rw [eq_of_beq hversion, show ((0 : Int) + 1).toNat = 1 from rfl] at happlied
  rw [happlied] at hbits
  exact absurd hbits (by simp)

end Replicas

end EventNet
