import EventNet.Proofs.Engine.Grounding
import EventNet.Proofs.Engine.Validity

/-!
Engines keep only aggregates that exist.

A system is grounded when its store lists a grounded ledger and its engines and their programs go with
that ledger.  Engines that keep nothing are grounded on a new store, and every move keeps a system
grounded, whether or not it loses something on the way to the store.  In every system that is reached
the streams of what is kept therefore have events.
-/

namespace EventNet

/-! ### Systems -/

/-- A worker whose engine is grounded and whose program leaves it so. -/
structure Worker.Grounded (w : Worker) (l : Ledger) : Prop where
  engine : w.engine.Grounded l
  task : ∀ t, w.task = some t → t.rest.Grounded (t.command.Ended w.engine) l

/-- A system whose store lists a grounded ledger that its workers go with. -/
structure System.Grounded (s : System) (l : Ledger) : Prop where
  lists : s.store.Lists l
  ledger : l.Grounded
  workers : ∀ w ∈ s.workers, w.Grounded l

theorem Worker.Grounded.extends {w : Worker} {l l' : Ledger} (h : w.Grounded l)
    (hl : l.Extends l') : w.Grounded l' :=
  ⟨h.engine.extends hl, fun t ht => (h.task t ht).extend (fun _ _ _ => Command.Ended.extends) hl⟩

namespace System

variable {s : System} {w : Worker} {l l' : Ledger}

/-- A store with idle engines on it. -/
def around (store : Store) (engines : List Engine) : System :=
  ⟨store, engines.map (⟨·, none⟩), []⟩

theorem Grounded.worker (h : s.Grounded l) {i : Nat} (hw : s.workers[i]? = some w) :
    w.Grounded l :=
  h.workers w (List.mem_of_getElem? hw)

theorem Grounded.put (h : s.Grounded l) (i : Nat) (hw : w.Grounded l) : (s.put i w).Grounded l := by
  refine ⟨h.lists, h.ledger, fun x hx => ?_⟩
  rcases List.mem_or_eq_of_mem_set hx with hx | rfl
  · exact h.workers x hx
  · exact hw

/-- A worker goes on with a program that leaves its engine grounded. -/
theorem Grounded.putTask (h : s.Grounded l) (i : Nat) (hw : w.engine.Grounded l) (t : Task)
    (ht : t.rest.Grounded (t.command.Ended w.engine) l) :
    (s.put i { w with task := some t }).Grounded l := by
  refine h.put i ⟨hw, fun t' ht' => ?_⟩
  obtain rfl := Option.some.inj ht'
  exact ht

/-- The store may come to list a ledger that extends the one it listed. -/
theorem Grounded.withStore (h : s.Grounded l) (hl : l.Extends l') {store : Store}
    (hs : store.Lists l') (hg : l'.Grounded) : Grounded { s with store } l' :=
  ⟨hs, hg, fun w hw => (h.workers w hw).extends hl⟩

theorem Grounded.proceed (h : s.Grounded l) (hw : w.Grounded l) (i : Nat) {t : Task}
    (ht : w.task = some t) (stamp : Stamp) :
    ∃ l', l.Extends l' ∧ (s.proceed i w t stamp).Grounded l' := by
  have hrest := hw.task t ht
  obtain ⟨command, rest, trace⟩ := t
  unfold System.proceed
  cases rest with
  | done r =>
      have hidle : Worker.Grounded ⟨r.2, none⟩ l := ⟨hrest.grounded, fun t ht => nomatch ht⟩
      have hput := h.put i hidle
      exact ⟨l, Ledger.Extends.refl l, hput.lists, hput.ledger, hput.workers⟩
  | report signals next =>
      exact ⟨l, Ledger.Extends.refl l, h.putTask i hw.engine ⟨command, next, trace⟩ hrest⟩
  | stamp next =>
      exact ⟨l, Ledger.Extends.refl l,
        h.putTask i hw.engine ⟨command, next stamp, trace⟩ (hrest stamp)⟩
  | call c next =>
      obtain ⟨l', hadmits, hlists⟩ := h.lists.answer c
      obtain ⟨hc, hnext⟩ := hrest l (Ledger.Extends.refl l) h.ledger
      have hl := hadmits.extends
      have hstore := h.withStore hl hlists (h.ledger.admits hc hadmits)
      exact ⟨l', hl, hstore.putTask i (hw.engine.extends hl) ⟨command, next _, _⟩
        (hnext _ l' hadmits)⟩

theorem Grounded.fail (h : s.Grounded l) (hw : w.Grounded l) (i : Nat) {t : Task}
    (ht : w.task = some t) (f : Fault) : (s.fail i w t f).Grounded l := by
  have hrest := hw.task t ht
  obtain ⟨command, rest, trace⟩ := t
  unfold System.fail
  cases rest with
  | call c next =>
      obtain ⟨-, hnext⟩ := hrest l (Ledger.Extends.refl l) h.ledger
      exact h.putTask i hw.engine ⟨command, next _, _⟩ (hnext _ l (l.admits_refusal c f))
  | _ => exact h

/-- Every move keeps a system grounded. -/
theorem Grounded.step (h : s.Grounded l) (m : Move) :
    ∃ l', l.Extends l' ∧ (s.step m).Grounded l' := by
  cases m with
  | start i c =>
      simp only [System.step]
      split
      · rename_i w hi
        have hw := h.worker (idle?_some hi)
        exact ⟨l, Ledger.Extends.refl l,
          h.putTask i hw.engine ⟨c, _, .start⟩ (Command.grounded_program hw.engine)⟩
      · exact ⟨l, Ledger.Extends.refl l, h⟩
  | advance i stamp =>
      simp only [System.step]
      split
      · rename_i w t hi
        obtain ⟨hw, ht⟩ := busy?_some hi
        exact h.proceed (h.worker hw) i ht stamp
      · exact ⟨l, Ledger.Extends.refl l, h⟩
  | refuse i f =>
      simp only [System.step]
      split
      · rename_i w t hi
        obtain ⟨hw, ht⟩ := busy?_some hi
        exact ⟨l, Ledger.Extends.refl l, h.fail (h.worker hw) i ht f⟩
      · exact ⟨l, Ledger.Extends.refl l, h⟩
  | append stream expected batch =>
      rcases h.lists.append stream expected batch with ⟨-, -, hlists⟩ | ⟨-, hlists⟩
      · exact ⟨_, l.extends_extend stream batch,
          h.withStore (l.extends_extend stream batch) hlists (h.ledger.extend stream batch)⟩
      · exact ⟨l, Ledger.Extends.refl l, h.withStore (Ledger.Extends.refl l) hlists h.ledger⟩

theorem Grounded.run (h : s.Grounded l) (moves : List Move) :
    ∃ l', l.Extends l' ∧ (s.run moves).Grounded l' := by
  induction moves generalizing s l with
  | nil => exact ⟨l, Ledger.Extends.refl l, h⟩
  | cons m rest ih =>
      obtain ⟨l₁, hl₁, h₁⟩ := h.step m
      obtain ⟨l₂, hl₂, h₂⟩ := ih h₁
      exact ⟨l₂, hl₁.trans hl₂, h₂⟩

/-- Engines that keep nothing, on a new store. -/
theorem grounded_around {store : Store} (hs : store.Holds .empty) {engines : List Engine}
    (he : ∀ e ∈ engines, e.instances = []) : (around store engines).Grounded .empty := by
  refine ⟨hs.lists, Ledger.grounded_empty, fun w hw => ?_⟩
  obtain ⟨e, hmem, rfl⟩ := List.mem_map.mp hw
  refine ⟨fun p hp => ?_, fun t ht => nomatch ht⟩
  rw [he e hmem] at hp
  exact absurd hp List.not_mem_nil

end System

/-! ### What is kept exists -/

/-- Every instance that is kept has seen an event, and its stream has the events that it has seen. -/
def Engine.KeepsExisting (e : Engine) (s : Store) : Prop :=
  ∀ p ∈ e.instances, 0 ≤ p.2.version ∧ p.2.version + 1 ≤ s.size p.1

theorem Engine.Grounded.keepsExisting {e : Engine} {l : Ledger} (h : e.Grounded l) {s : Store}
    (hs : s.Lists l) : e.KeepsExisting s := by
  intro p hp
  obtain ⟨hpos, hlt⟩ := h p hp
  rw [hs.size]
  exact ⟨hpos, hlt⟩

namespace System

/-- The engines of a system keep aggregates that exist, and those of commands that have come to their
end will do so. -/
structure KeepsExisting (s : System) : Prop where
  /-- How many events a stream has is what the store answers for its version. -/
  counted : ∀ id v, (s.store.streamVersion id).value.1 = .ok v → v = (s.store.size id : Int) - 1
  kept : ∀ w ∈ s.workers, w.engine.KeepsExisting s.store
  ended : ∀ w ∈ s.workers, ∀ c o e trace, w.task = some ⟨c, .done (o, e), trace⟩ →
    e.KeepsExisting s.store ∧
    (s.store.size c.aggregate = 0 → e.instances.get? c.aggregate = none ∧
      ∀ st, o = .state (.ok st) → st = ⟨c.aggregate, noStream, .initial w.engine.schema⟩)

theorem Grounded.keepsExisting {s : System} {l : Ledger} (h : s.Grounded l) : s.KeepsExisting where
  counted id v hv := h.lists.streamVersion hv
  kept w hw := (h.workers w hw).engine.keepsExisting h.lists
  ended w hw c o e trace ht := by
    have hended : c.Ended w.engine (o, e) l := (h.workers w hw).task _ ht
    refine ⟨hended.grounded.keepsExisting h.lists, fun hsize => ?_⟩
    rw [h.lists.size] at hsize
    have hnil := List.length_eq_zero_iff.mp hsize
    exact ⟨hended.grounded.get?_eq_none hnil, hended.initial hnil⟩

/-- **Only aggregates that exist are kept.**  Engines of any schemas work on a new store, call by call in
any order, others append what they like, and any call may be refused.  Every instance that is kept has
seen events of its stream.  A command about an aggregate without events leaves none for it, and a state
that it answers is that at the start of the schema. -/
theorem keeps_existing {store : Store} (hs : store.Holds .empty) {engines : List Engine}
    (he : ∀ e ∈ engines, e.instances = []) (moves : List Move) :
    ((around store engines).run moves).KeepsExisting := by
  obtain ⟨l, -, h⟩ := (grounded_around hs he).run moves
  exact h.keepsExisting

/-- An engine that keeps nothing yet. -/
def bookingEngine : Engine :=
  (Engine.new booking.schema booking.evaluator booking.settings).value

/-- The hall is booked.  The attic cannot be booked, since every append to its stream is refused, and its
state is looked at afterwards. -/
def visits : List Move :=
  .start 0 (.execute "hall" "book" [] none) :: List.replicate 20 (.advance 0 ⟨⟨1⟩, ⟨0, 0⟩⟩) ++
    .start 0 (.execute "attic" "book" [] none) :: List.replicate 4 (.advance 0 ⟨⟨2⟩, ⟨0, 0⟩⟩) ++
    .refuse 0 .storeClosed :: List.replicate 2 (.advance 0 ⟨⟨2⟩, ⟨0, 0⟩⟩) ++
    .start 0 (.state "attic") :: List.replicate 2 (.advance 0 ⟨⟨3⟩, ⟨0, 0⟩⟩)

theorem keeps_existing_visits :
    (∀ e ∈ [bookingEngine], e.instances = []) ∧
      ((around (.memory (.new 1)) [bookingEngine]).run visits).workers.map
        (fun w => w.engine.instances.map (·.1)) = [["hall"]] ∧
      ((around (.memory (.new 1)) [bookingEngine]).run visits).KeepsExisting := by
  have hfresh : ∀ e ∈ [bookingEngine], e.instances = [] := List.forall_mem_singleton.mpr rfl
  exact ⟨hfresh, by decide +kernel, keeps_existing (Store.holds_memory_new 1) hfresh visits⟩

end System

end EventNet
