import EventNet.Proofs.Engine.Commands
import EventNet.Proofs.Expr.Extensional

/-!
Every interleaving keeps the log valid.

A system is `Sane` when its store holds a faithful ledger, the engines of its workers fit the ledger,
the programs that run can be relied on from there, and every event that a command has added is valid in
its place.  Idle engines on a new store are sane, and every move that loses nothing keeps a system sane:
a step of a worker is permitted, and what it changes others can cope with.  What holds of the log and of
the answers in every reachable system is read off this invariant.
-/

namespace EventNet

/-! ### Stores and their ledgers -/

namespace Store.Holds

variable {s : Store} {l : Ledger} {u : Setup}

theorem log (h : s.Holds l) (hopen : l.closed = false) : s.log = l.log := by
  have hread := (h.readAll (f := .all) rfl rfl).1
  have hall : (EventFilter.all.cut (l.log.filter EventFilter.all.passes)) = l.log :=
    List.filter_eq_self.mpr fun _ _ => rfl
  unfold Ledger.readAll at hread
  rw [l.answer_open hopen, hall] at hread
  unfold Store.log
  rw [hread]

theorem saved? (h : s.Holds l) (hopen : l.closed = false) (id : String) :
    s.saved? id = l.snapshots.get? id := by
  have hload := (h.loadSnapshot id).1
  unfold Ledger.loadSnapshot at hload
  rw [l.answer_open hopen] at hload
  unfold Store.saved?
  rw [hload]

/-- A store answers a call as its ledger may, and holds the ledger that this leads to. -/
theorem answer (h : s.Holds l) (hopen : l.closed = false) {c : StoreCall} (hc : c.Kept u s) :
    ∃ l', l.Serves c (s.answer c).1 l' ∧ (s.answer c).2.Holds l' := by
  cases c with
  | loadSnapshot stream =>
      have hload := h.loadSnapshot stream
      unfold Ledger.loadSnapshot at hload
      rw [l.answer_open hopen] at hload
      exact ⟨l, ⟨rfl, Or.inl hload.1⟩, hload.2⟩
  | read stream start =>
      have hread := h.read stream start
      unfold Ledger.read at hread
      rw [l.answer_open hopen] at hread
      exact ⟨l, ⟨rfl, Or.inl hread.1⟩, hread.2⟩
  | append stream expected batch =>
      rcases h.append stream expected hc with ⟨hr, hl⟩ | ⟨-, hr, hl⟩
      · rcases l.append_cases stream expected batch with ⟨-, hversion, heq⟩ | ⟨f, heq⟩
        · rw [heq] at hr hl
          exact ⟨_, Or.inl ⟨hversion, hr, rfl⟩, hl⟩
        · rw [heq] at hr hl
          exact ⟨l, Or.inr ⟨rfl, f, hr⟩, hl⟩
      · exact ⟨l, Or.inr ⟨rfl, hr⟩, hl⟩
  | saveSnapshot x =>
      have hsave := h.saveSnapshot hc.1
      rw [l.saveSnapshot_open hopen] at hsave
      exact ⟨_, Or.inl ⟨hsave.1, rfl⟩, hsave.2⟩

end Store.Holds

/-! ### Single calls -/

namespace Ledger

variable {l l' : Ledger} {u : Setup} {c : StoreCall} {id : String} {r : c.Answer}

/-- A permitted call keeps a ledger faithful, if a state that it saves is finite. -/
theorem Faithful.serves (h : l.Faithful u) (hp : c.Permitted u id l) (hs : l.Serves c r l')
    (hfinite : ∀ x, c = .saveSnapshot x →
      (u.fold ((l.events x.stream).take (x.version + 1).toNat)).Finite) : l'.Faithful u := by
  cases c with
  | loadSnapshot stream => exact hs.1 ▸ h
  | read stream start => exact hs.1 ▸ h
  | append stream expected batch =>
      rcases hs with ⟨-, -, rfl⟩ | ⟨rfl, -⟩
      · exact h.extend stream batch
      · exact h
  | saveSnapshot x =>
      rcases hs with ⟨-, rfl⟩ | ⟨rfl, -⟩
      · obtain ⟨rfl, k, hk⟩ := hp
        have hposition : (x.version + 1).toNat = k := by
          rw [hk.version]
          omega
        exact h.saveSnapshot ⟨hk, hposition ▸ hfinite x rfl⟩
      · exact h

/-- What a permitted call adds is valid. -/
theorem valid_of_serves (hp : c.Permitted u id l) (hs : l.Serves c r l') {e : Event}
    (he : e ∈ l'.log.drop l.log.length) : l'.Valid u e := by
  have hsame : l'.log = l.log → False := fun hlog => by
    rw [hlog, List.drop_length] at he
    exact List.not_mem_nil he
  cases c with
  | loadSnapshot stream => exact (hsame (hs.1 ▸ rfl)).elim
  | read stream start => exact (hsame (hs.1 ▸ rfl)).elim
  | append stream expected batch =>
      rcases hs with ⟨hversion, -, rfl⟩ | ⟨rfl, -⟩
      · obtain ⟨-, x, rfl, hvalid⟩ := hp
        have hadded : e ∈ Batch.numberFrom stream (l.version stream + 1) [x] := by
          have := he
          rwa [show (l.extend stream [x]).log = l.log ++ Batch.numberFrom stream
            (l.version stream + 1) [x] from rfl, List.drop_left] at this
        rw [hversion] at hadded
        rw [List.mem_singleton.mp hadded]
        exact hvalid hversion
      · exact (hsame rfl).elim
  | saveSnapshot x =>
      rcases hs with ⟨-, rfl⟩ | ⟨rfl, -⟩
      · exact (hsame rfl).elim
      · exact (hsame rfl).elim

/-- A permitted call leaves the streams and saved states of all other aggregates as they were. -/
theorem Serves.others (hp : c.Permitted u id l) (hs : l.Serves c r l') {other : String}
    (hother : other ≠ id) :
    l'.events other = l.events other ∧ l'.snapshots.get? other = l.snapshots.get? other := by
  cases c with
  | loadSnapshot stream => exact hs.1 ▸ ⟨rfl, rfl⟩
  | read stream start => exact hs.1 ▸ ⟨rfl, rfl⟩
  | append stream expected batch =>
      rcases hs with ⟨-, -, rfl⟩ | ⟨rfl, -⟩
      · exact ⟨events_extend_of_ne l (hp.1 ▸ hother.symm) batch, rfl⟩
      · exact ⟨rfl, rfl⟩
  | saveSnapshot x =>
      rcases hs with ⟨-, rfl⟩ | ⟨rfl, -⟩
      · exact ⟨rfl, Dict.get?_insert_of_ne _ _ (hp.1 ▸ hother.symm)⟩
      · exact ⟨rfl, rfl⟩

/-- A ledger may refuse every call. -/
theorem serves_refusal (l : Ledger) (c : StoreCall) (f : Fault) : l.Serves c (c.refusal f) l := by
  cases c with
  | loadSnapshot stream => exact ⟨rfl, Or.inr ⟨f, rfl⟩⟩
  | read stream start => exact ⟨rfl, Or.inr ⟨f, rfl⟩⟩
  | append stream expected batch => exact Or.inr ⟨rfl, f, rfl⟩
  | saveSnapshot x => exact Or.inr ⟨rfl, f, rfl⟩

end Ledger

/-! ### Places in the log -/

/-- An event that stands at its version in a history, is accepted there, and leaves no constraint
violated if constraints are checked. -/
structure Setup.PlacedAt (u : Setup) (history : List Event) (e : Event) (position : Nat) : Prop where
  found : history[position]? = some e
  version : e.version = position
  accepted : u.Accepts (history.take position) e
  consistent : u.settings.checkConstraints = true → u.Consistent (history.take (position + 1))

/-- A valid event has the version of its place. -/
theorem Ledger.Faithful.placed {u : Setup} {l : Ledger} (h : l.Faithful u) {e : Event}
    (he : l.Valid u e) : ∃ k, u.PlacedAt (l.events e.stream) e k := by
  obtain ⟨before, rest, hevents, haccepts, hconsistent⟩ := he
  have hfound : (l.events e.stream)[before.length]? = some e := by
    rw [hevents, List.getElem?_append_right (Nat.le_refl _), Nat.sub_self]
    rfl
  have htake : (l.events e.stream).take before.length = before := by
    rw [hevents, List.take_left]
  refine ⟨before.length, hfound, h.numbered _ _ _ hfound, htake.symm ▸ haccepts, fun hc => ?_⟩
  rw [List.take_add_one, hfound, htake]
  exact hconsistent hc

/-! ### Systems -/

/-- A worker whose engine fits and whose program can be relied on from here. -/
structure Worker.Sane (w : Worker) (u : Setup) (l : Ledger) : Prop where
  engine : w.engine.Fits u l
  task : ∀ t, w.task = some t →
    t.rest.Secures u t.command.aggregate (t.command.Completed w.engine u) t.trace l ∧
      ∀ e ∈ t.trace.added, l.Valid u e

/-- A finished command with an honest answer and a current state. -/
structure Finished.Sane (f : Finished) (u : Setup) (l : Ledger) : Prop where
  honest : f.outcome.Honest f.trace
  current : f.outcome.Current u f.command f.trace l.events
  valid : ∀ e ∈ f.trace.added, l.Valid u e

/-- A system whose store holds a faithful ledger that its workers can go on with. -/
structure System.Sane (s : System) (u : Setup) (l : Ledger) : Prop where
  holds : s.store.Holds l
  faithful : l.Faithful u
  workers : ∀ w ∈ s.workers, w.Sane u l
  finished : ∀ f ∈ s.finished, f.Sane u l

variable {u : Setup} {l l' : Ledger} {s : System} {w : Worker}

theorem Worker.Sane.extend (h : w.Sane u l) (hl : l.Extends l') : w.Sane u l' := by
  refine ⟨h.engine.extend hl, fun t ht => ?_⟩
  obtain ⟨hrest, hvalid⟩ := h.task t ht
  exact ⟨hrest.extend (fun r t l l' hl hr => hr.extend hl) hl, fun e he => (hvalid e he).extend hl⟩

theorem Finished.Sane.extend {f : Finished} (h : f.Sane u l) (hl : l.Extends l') : f.Sane u l' :=
  ⟨h.honest, h.current.extend hl, fun e he => (h.valid e he).extend hl⟩

namespace System

theorem idle?_some {i : Nat} (h : s.idle? i = some w) : s.workers[i]? = some w :=
  (Option.filter_eq_some_iff.mp h).1

theorem busy?_some {i : Nat} {t : Task} (h : s.busy? i = some (w, t)) :
    s.workers[i]? = some w ∧ w.task = some t := by
  obtain ⟨w', hw, hmap⟩ := Option.bind_eq_some_iff.mp h
  obtain ⟨t', ht, heq⟩ := Option.map_eq_some_iff.mp hmap
  obtain ⟨rfl, rfl⟩ := Prod.mk.inj heq
  exact ⟨hw, ht⟩

theorem Sane.worker (h : s.Sane u l) {i : Nat} (hw : s.workers[i]? = some w) : w.Sane u l :=
  h.workers w (List.mem_of_getElem? hw)

theorem Sane.put (h : s.Sane u l) (i : Nat) (w : Worker) (hw : w.Sane u l) :
    (s.put i w).Sane u l := by
  refine ⟨h.holds, h.faithful, fun x hx => ?_, h.finished⟩
  rcases List.mem_or_eq_of_mem_set hx with hx | rfl
  · exact h.workers x hx
  · exact hw

/-- A worker goes on with a program that can be relied on. -/
theorem Sane.putTask (h : s.Sane u l) (i : Nat) (hw : w.engine.Fits u l) (t : Task)
    (hrest : t.rest.Secures u t.command.aggregate (t.command.Completed w.engine u) t.trace l)
    (hvalid : ∀ e ∈ t.trace.added, l.Valid u e) :
    (s.put i { w with task := some t }).Sane u l := by
  refine h.put i _ ⟨hw, fun t' ht => ?_⟩
  obtain rfl := Option.some.inj ht
  exact ⟨hrest, hvalid⟩

/-- The store may come to hold a ledger that extends the one it held. -/
theorem Sane.withStore (h : s.Sane u l) (hl : l.Extends l') {store : Store}
    (hs : store.Holds l') (hf : l'.Faithful u) : Sane { s with store } u l' :=
  ⟨hs, hf, fun w hw => (h.workers w hw).extend hl, fun f hf => (h.finished f hf).extend hl⟩

/-- A worker that begins a command can be relied on. -/
theorem Sane.begin (h : s.Sane u l) (hw : w.Sane u l) (i : Nat) {c : Command}
    (hc : c.bindings.Regular) : (s.begin i w c).Sane u l :=
  h.putTask i hw.engine ⟨c, c.program w.engine, .start⟩ (Command.secures_program hw.engine hc)
    fun _ he => absurd he List.not_mem_nil

/-- A call of a program that can be relied on is permitted, and the store answers it as a faithful
ledger may. -/
theorem Sane.answered (h : s.Sane u l) {id : String} {t : Trace} {c : StoreCall}
    {next : c.Answer → Program (Outcome × Engine)} {Q : Outcome × Engine → Trace → Ledger → Prop}
    (hrest : (Program.call c next).Secures u id Q t l) (hc : c.Kept u s.store) :
    ∃ l', c.Permitted u id l ∧ l.Serves c (s.store.answer c).1 l' ∧
      (s.store.answer c).2.Holds l' ∧ l'.Faithful u := by
  obtain ⟨l', hserves, hholds⟩ := h.holds.answer h.faithful.opened hc
  obtain ⟨hp, -⟩ := hrest l (Ledger.Extends.refl l) h.faithful
  refine ⟨l', hp, hserves, hholds, h.faithful.serves hp hserves fun x hx => ?_⟩
  subst hx
  rw [← h.holds.stream h.faithful.opened]
  exact hc.2

/-- A step of a worker keeps the system sane. -/
theorem Sane.proceed (h : s.Sane u l) (hw : w.Sane u l) (i : Nat) {t : Task} (ht : w.task = some t)
    (stamp : Stamp) (hkept : ∀ c next, t.rest = .call c next → c.Kept u s.store) :
    ∃ l', l.Extends l' ∧ (s.proceed i w t stamp).Sane u l' := by
  obtain ⟨hrest, hvalid⟩ := hw.task t ht
  obtain ⟨command, rest, trace⟩ := t
  unfold System.proceed
  cases rest with
  | done r =>
      obtain ⟨outcome, engine⟩ := r
      have hleft := hrest.left.fits
      have hsane := h.put i ⟨engine, none⟩ ⟨hleft, fun _ hnone => by simp at hnone⟩
      refine ⟨l, Ledger.Extends.refl l, hsane.holds, hsane.faithful, hsane.workers, fun f hf => ?_⟩
      rcases List.mem_append.mp hf with hf | hf
      · exact h.finished f hf
      · rw [List.mem_singleton.mp hf]
        exact ⟨hrest.honest, hrest.current, hvalid⟩
  | report signals next =>
      exact ⟨l, Ledger.Extends.refl l, h.putTask i hw.engine ⟨command, next, trace⟩ hrest hvalid⟩
  | stamp next =>
      exact ⟨l, Ledger.Extends.refl l,
        h.putTask i hw.engine ⟨command, next stamp, trace⟩ (hrest stamp) hvalid⟩
  | call c next =>
      have hopen := h.faithful.opened
      obtain ⟨l', hp, hserves, hholds, hfaithful⟩ := h.answered hrest (hkept c next rfl)
      obtain ⟨-, hnext⟩ := hrest l (Ledger.Extends.refl l) h.faithful
      have hsane := h.withStore hserves.extends hholds hfaithful
      -- the trace of the worker tells what the ledger tells
      have hlogs : (s.store.answer c).2.log.drop s.store.log.length = l'.log.drop l.log.length := by
        rw [hholds.log hfaithful.opened, h.holds.log hopen]
      have hstreams : s.store.stream = l.events := funext (h.holds.stream hopen)
      refine ⟨l', hserves.extends,
        hsane.putTask i (hw.engine.extend hserves.extends) ⟨command, next _, _⟩ ?_ ?_⟩
      · rw [hlogs, hstreams]
        exact hnext _ l' hserves hfaithful
      · intro e he
        rw [hlogs] at he
        rcases List.mem_append.mp he with he | he
        · exact (hvalid e he).extend hserves.extends
        · exact Ledger.valid_of_serves hp hserves he

theorem Sane.fail (h : s.Sane u l) (hw : w.Sane u l) (i : Nat) {t : Task} (ht : w.task = some t)
    (f : Fault) : (s.fail i w t f).Sane u l := by
  obtain ⟨hrest, hvalid⟩ := hw.task t ht
  obtain ⟨command, rest, trace⟩ := t
  unfold System.fail
  cases rest with
  | call c next =>
      obtain ⟨hp, hnext⟩ := hrest l (Ledger.Extends.refl l) h.faithful
      have hsecured := hnext _ l (l.serves_refusal c f) h.faithful
      rw [List.drop_length] at hsecured
      refine h.putTask i hw.engine ⟨command, next _, _⟩ ?_ fun e he => hvalid e ?_
      · rw [funext (h.holds.stream h.faithful.opened)]
        exact hsecured
      · exact (List.mem_append.mp he).resolve_right List.not_mem_nil
  | _ => exact h

/-- What somebody else appends, the ledger has afterwards or the store has refused. -/
theorem Sane.appended (h : s.Sane u l) (stream : String) (expected : Int) {batch : List Event}
    (hm : ∀ e ∈ batch, s.store.Keeps e) :
    ∃ l', (l' = l ∨ l' = l.extend stream batch) ∧
      (s.store.append stream expected batch).value.2.Holds l' := by
  rcases h.holds.append stream expected hm with ⟨-, hl⟩ | ⟨-, -, hl⟩
  · rcases l.append_cases stream expected batch with ⟨-, -, heq⟩ | ⟨f, heq⟩
    · rw [heq] at hl
      exact ⟨_, Or.inr rfl, hl⟩
    · rw [heq] at hl
      exact ⟨l, Or.inl rfl, hl⟩
  · exact ⟨l, Or.inl rfl, hl⟩

theorem Spares.kept {i : Nat} {stamp : Stamp} (hm : s.Spares u (.advance i stamp)) {t : Task}
    (hi : s.busy? i = some (w, t)) :
    ∀ c next, t.rest = .call c next → c.Kept u s.store := by
  intro c next hc
  simp only [Spares, hi, hc] at hm
  exact hm

/-- **Every move that loses nothing keeps a system sane.** -/
theorem Sane.step (h : s.Sane u l) {m : Move} (hm : s.Spares u m) :
    ∃ l', l.Extends l' ∧ (s.step m).Sane u l' := by
  cases m with
  | start i c =>
      simp only [System.step]
      split
      · rename_i w hi
        exact ⟨l, Ledger.Extends.refl l, h.begin (h.worker (idle?_some hi)) i hm⟩
      · exact ⟨l, Ledger.Extends.refl l, h⟩
  | advance i stamp =>
      simp only [System.step]
      split
      · rename_i w t hi
        obtain ⟨hw, ht⟩ := busy?_some hi
        exact h.proceed (h.worker hw) i ht stamp (hm.kept hi)
      · exact ⟨l, Ledger.Extends.refl l, h⟩
  | refuse i f =>
      simp only [System.step]
      split
      · rename_i w t hi
        obtain ⟨hw, ht⟩ := busy?_some hi
        exact ⟨l, Ledger.Extends.refl l, h.fail (h.worker hw) i ht f⟩
      · exact ⟨l, Ledger.Extends.refl l, h⟩
  | append stream expected batch =>
      obtain ⟨l', rfl | rfl, hl⟩ := h.appended stream expected hm
      · exact ⟨l', Ledger.Extends.refl l', h.withStore (Ledger.Extends.refl l') hl h.faithful⟩
      · exact ⟨_, l.extends_extend stream batch,
          h.withStore (l.extends_extend stream batch) hl (h.faithful.extend stream batch)⟩

/-- A sane system is sane after every list of moves that lose nothing. -/
theorem Sane.run (h : s.Sane u l) {moves : List Move} (hm : s.Lossless u moves) :
    ∃ l', l.Extends l' ∧ (s.run moves).Sane u l' := by
  induction moves generalizing s l with
  | nil => exact ⟨l, Ledger.Extends.refl l, h⟩
  | cons m rest ih =>
      obtain ⟨l₁, hl₁, h₁⟩ := h.step hm.1
      obtain ⟨l₂, hl₂, h₂⟩ := ih h₁ hm.2
      exact ⟨l₂, hl₁.trans hl₂, h₂⟩

/-- Idle engines on a new store are sane. -/
theorem sane_idle (u : Setup) {store : Store} (hs : store.Holds .empty) (engines : Nat) :
    (idle u store engines).Sane u .empty := by
  refine ⟨hs, ⟨rfl, Ledger.numbered_empty, fun id x hx => by simp [Ledger.empty] at hx⟩, ?_, ?_⟩
  · intro w hw
    rw [List.eq_of_mem_replicate hw]
    exact ⟨⟨rfl, rfl, rfl, rfl, fun p hp => absurd hp List.not_mem_nil⟩, fun t ht => by simp at ht⟩
  · exact fun f hf => absurd hf List.not_mem_nil

/-! ### The log -/

/-- **The log stays valid however the calls of engines interleave**, as long as nothing is lost on the
way to the store and back.  Every finished command tells what it has added: the event it answers, or
nothing if it fails.  Every event that a command has added stands at its version in its stream, is
accepted there when the stream is replayed, and leaves no constraint violated if constraints are
checked, whatever others have appended before it. -/
theorem log_valid (u : Setup) {store : Store} (hs : store.Holds .empty) (engines : Nat)
    {moves : List Move} (hm : (idle u store engines).Lossless u moves) :
    (∀ f ∈ ((idle u store engines).run moves).finished, f.outcome.Honest f.trace) ∧
    ∀ e, ((idle u store engines).run moves).Wrote e → ∃ k,
      u.PlacedAt (((idle u store engines).run moves).store.stream e.stream) e k := by
  obtain ⟨l, -, h⟩ := (sane_idle u hs engines).run hm
  refine ⟨fun f hf => (h.finished f hf).honest, fun e he => ?_⟩
  have hvalid : l.Valid u e := by
    rcases he with ⟨f, hf, he⟩ | ⟨w, hw, t, ht, he⟩
    · exact (h.finished f hf).valid e he
    · exact ((h.workers w hw).task t ht).2 e he
  rw [h.holds.stream h.faithful.opened]
  exact h.faithful.placed hvalid

/-! #### A hall that can be booked once -/

/-- A place that is free or taken. -/
def hall : Definition :=
  ⟨"hall", none, [.token "free" 1, .token "taken" 0], [.plain "book"],
    [.flow "free" "book", .flow "book" "taken"], [⟨"kept", "free + taken == 1"⟩]⟩

/-- Engines that check constraints and save every state. -/
def booking : Setup where
  schema := ⟨hall, .ofDefinition hall, Definition.check_of_isOk (by decide +kernel), rfl⟩
  evaluator := .standard []
  settings := ⟨some 1, 3, true⟩
  distinct := by decide
  extensional := GuardEvaluator.extensional_builtins
  ordered := List.forall_mem_cons.mpr ⟨trivial, List.forall_mem_cons.mpr
    ⟨trivial, fun _ h => absurd h List.not_mem_nil⟩⟩

/-- Two engines book the hall, and somebody else writes to its stream before the first of them does:
its append is refused once, and the second engine finds the hall taken. -/
def bookings : List Move :=
  [.start 0 (.executeWithRetry "hall" "book" []), .start 1 (.execute "hall" "book" [] none)] ++
    List.replicate 3 (.advance 0 ⟨⟨0⟩, ⟨0, 0⟩⟩) ++
    [.append "hall" (-1) [.new ⟨⟨7⟩, ⟨0, 0⟩⟩ "hall" "Cleaned" (.obj [])]] ++
    List.replicate 40 (.advance 0 ⟨⟨1⟩, ⟨0, 0⟩⟩) ++ List.replicate 40 (.advance 1 ⟨⟨2⟩, ⟨0, 0⟩⟩)

/-- Commands that bind nothing lose nothing in memory, since the hall has counts only. -/
theorem lossless_booking {moves : List Move} (h : ∀ i c, .start i c ∈ moves → c.bindings = []) :
    (idle booking (.memory (.new 1)) 2).Lossless booking moves := by
  refine lossless_of_finite (booking.finite_fold_of_tokens (by decide)) ?_ fun i c hc => ?_
  · exact trivial
  · rw [h i c hc]
    exact ⟨Dict.sorted_nil, trivial, trivial⟩

theorem unbound_bookings : ∀ i c, .start i c ∈ bookings → c.bindings = [] := by
  intro i c hc
  simp only [bookings, List.mem_append, List.mem_cons, List.mem_replicate, List.not_mem_nil,
    reduceCtorEq, Move.start.injEq, or_false, and_false] at hc
  rcases hc with ⟨-, rfl⟩ | ⟨-, rfl⟩ <;> rfl

theorem log_valid_bookings :
    ((idle booking (.memory (.new 1)) 2).run bookings).finished.map (·.trace.added.length) = [1, 0] ∧
      ∀ e, ((idle booking (.memory (.new 1)) 2).run bookings).Wrote e → ∃ k,
        booking.PlacedAt (((idle booking (.memory (.new 1)) 2).run bookings).store.stream e.stream)
          e k :=
  ⟨by decide +kernel,
    (log_valid booking (Store.holds_memory_new 1) 2 (lossless_booking unbound_bookings)).2⟩

/-! #### Sums that overflow

Two finite amounts add up to infinity, which is saved as null.  An engine that starts from the saved
state finds no balance and grants what the replay of the events denies. -/

/-- Balances, and a grant for whoever has none. -/
def balances : Definition :=
  ⟨"balances", none, [.data "bal" "map[string]number", .token "granted" 0],
    [.plain "deposit", .guarded "grant" "bal[\"a\"] == nil"],
    [⟨"deposit", "bal", 1, ["who"], "amount", false⟩, .flow "grant" "granted"], []⟩

/-- Engines that save every second state. -/
def granting : Setup where
  schema := ⟨balances, .ofDefinition balances, Definition.check_of_isOk (by decide +kernel), rfl⟩
  evaluator := .standard []
  settings := ⟨some 2, 3, false⟩
  distinct := by decide
  extensional := GuardEvaluator.extensional_builtins
  ordered := List.forall_mem_cons.mpr ⟨⟨Dict.sorted_nil, trivial⟩, List.forall_mem_cons.mpr
    ⟨trivial, fun _ h => absurd h List.not_mem_nil⟩⟩

/-- The greatest power of ten that is a double. -/
def huge : Bindings :=
  [("amount", .number 1e308), ("who", .str "a")]

theorem regular_huge : huge.Regular where
  sorted := List.pairwise_pair.mpr (by decide)
  finite := ⟨show Float.isFinite 1e308 = true by decide +kernel, trivial, trivial⟩
  ordered := ⟨trivial, trivial, trivial⟩

/-- One engine deposits twice, then another one grants. -/
def grants : List Move :=
  .start 0 (.execute "a" "deposit" huge none) :: List.replicate 20 (.advance 0 ⟨⟨1⟩, ⟨0, 0⟩⟩) ++
    .start 0 (.execute "a" "deposit" huge none) :: List.replicate 20 (.advance 0 ⟨⟨2⟩, ⟨0, 0⟩⟩) ++
    .start 1 (.execute "a" "grant" [] none) :: List.replicate 20 (.advance 1 ⟨⟨3⟩, ⟨0, 0⟩⟩)

theorem log_invalid_grants :
    ¬ ∀ (u : Setup) (buffer engines : Nat) (moves : List Move),
      (∀ i c, .start i c ∈ moves → c.bindings.Regular) →
      ∀ e, ((idle u (.memory (.new buffer)) engines).run moves).Wrote e → ∃ k,
        u.PlacedAt (((idle u (.memory (.new buffer)) engines).run moves).store.stream e.stream)
          e k := by
  intro h
  have hdenied : ((idle granting (.memory (.new 1)) 2).run grants).finished.any (fun f =>
      f.trace.added.any fun e => !(granting.call (granting.fold
        ((((idle granting (.memory (.new 1)) 2).run grants).store.stream e.stream).take
          e.version.toNat)) e).1.isOk) = true := by decide +kernel
  obtain ⟨f, hf, hadded⟩ := List.any_eq_true.mp hdenied
  obtain ⟨e, he, hfails⟩ := List.any_eq_true.mp hadded
  have hregular : ∀ i c, .start i c ∈ grants → c.bindings.Regular := by
    intro i c hc
    simp only [grants, List.cons_append, List.mem_append, List.mem_cons, List.mem_replicate,
      reduceCtorEq, Move.start.injEq, and_false, false_or, or_false] at hc
    rcases hc with ⟨-, rfl⟩ | ⟨-, rfl⟩ | ⟨-, rfl⟩
    · exact regular_huge
    · exact regular_huge
    · exact ⟨Dict.sorted_nil, trivial, trivial⟩
  obtain ⟨k, hk⟩ := h granting 1 2 grants hregular e (Or.inl ⟨f, hf, he⟩)
  have haccepted := hk.accepted
  unfold Setup.Accepts at haccepted
  rw [hk.version, Int.toNat_natCast, haccepted] at hfails
  exact absurd hfails (by decide)

end System

end EventNet
