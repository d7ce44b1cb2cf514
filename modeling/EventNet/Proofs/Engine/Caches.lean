import EventNet.Proofs.Engine.Validity

/-!
What is kept beside the log is read off the log.

An engine keeps instances, the store keeps saved states, and loading answers a state.  In every system
that is reached without losing anything, each of them is what the events of its own stream lead to:
the first of them for what is kept, all that were read for what is loaded.  A step of a command touches
the aggregate of the command only.
-/

namespace EventNet

/-- A marking at a version is the one that the events up to the version lead to, up to the signs of
zeros. -/
def Setup.StateAt (u : Setup) (history : List Event) (version : Int) (m : Marking) : Prop :=
  ∃ k : Nat, k ≤ history.length ∧ version = (k : Int) - 1 ∧ m.plain = (u.fold (history.take k)).plain

theorem Instance.At.stateAt {i : Instance} {u : Setup} {history : List Event} {k : Nat}
    (h : i.At u history k) : u.StateAt history i.version i.net.marking :=
  ⟨k, h.within, h.version, h.marking⟩

theorem StateSnapshot.SavedAt.stateAt {x : StateSnapshot} {u : Setup} {history : List Event}
    {k : Nat} (h : x.SavedAt u history k) :
    ∃ m : Marking, x.state = m.toJson ∧ m.Finite ∧ u.StateAt history x.version m := by
  obtain ⟨m, hstate, hm⟩ := h.state
  exact ⟨m, hstate, Marking.finite_of_plain_eq hm h.finite, k, h.within, h.version, hm⟩

namespace System

variable {u : Setup} {l : Ledger} {s : System} {w : Worker} {id : String}

/-! ### What a move does not touch -/

/-- The aggregate that a move is about. -/
def subject? (s : System) : Move → Option String
  | .start _ c => some c.aggregate
  | .advance i _ => (s.busy? i).map (·.2.command.aggregate)
  | .refuse i _ => (s.busy? i).map (·.2.command.aggregate)
  | .append stream .. => some stream

/-- Two systems with the same events, the same saved state and the same instances of an aggregate. -/
structure AlikeOn (s s' : System) (id : String) : Prop where
  stream : s'.store.stream id = s.store.stream id
  saved : s'.store.saved? id = s.store.saved? id
  kept : s'.workers.map (·.engine.instances.get? id) = s.workers.map (·.engine.instances.get? id)

theorem alikeOn_refl (s : System) (id : String) : s.AlikeOn s id :=
  ⟨rfl, rfl, rfl⟩

theorem kept_put {i : Nat} (hw : s.workers[i]? = some w) {w' : Worker}
    (h : w'.engine.instances.get? id = w.engine.instances.get? id) :
    (s.put i w').workers.map (·.engine.instances.get? id) =
      s.workers.map (·.engine.instances.get? id) := by
  refine List.ext_getElem? fun j => ?_
  rw [List.getElem?_map, List.getElem?_map]
  by_cases hj : i = j
  · subst hj
    have hlt := (List.getElem?_eq_some_iff.mp hw).1
    rw [hw, show (s.put i w').workers[i]? = some w' from List.getElem?_set_self hlt]
    exact congrArg some h
  · rw [show (s.put i w').workers[j]? = s.workers[j]? from List.getElem?_set_ne hj]

/-- A step of a worker touches the aggregate of its command only. -/
theorem Sane.alikeOn_proceed (h : s.Sane u l) {i : Nat} {t : Task} (hi : s.busy? i = some (w, t))
    (stamp : Stamp) (hkept : ∀ c next, t.rest = .call c next → c.Kept u s.store)
    (hother : id ≠ t.command.aggregate) : s.AlikeOn (s.proceed i w t stamp) id := by
  obtain ⟨hw, ht⟩ := busy?_some hi
  obtain ⟨hrest, -⟩ := (h.worker hw).task t ht
  obtain ⟨command, rest, trace⟩ := t
  unfold System.proceed
  cases rest with
  | done r => exact ⟨rfl, rfl, kept_put hw (hrest.left.others id hother)⟩
  | report signals next => exact ⟨rfl, rfl, kept_put hw rfl⟩
  | stamp next => exact ⟨rfl, rfl, kept_put hw rfl⟩
  | call c next =>
      have hopen := h.faithful.opened
      obtain ⟨l', hp, hserves, hholds, hfaithful⟩ := h.answered hrest (hkept c next rfl)
      obtain ⟨hevents, hsaved⟩ := hserves.others hp hother
      refine ⟨?_, ?_, kept_put hw rfl⟩
      · exact (hholds.stream hfaithful.opened id).trans
          (hevents.trans (h.holds.stream hopen id).symm)
      · exact (hholds.saved? hfaithful.opened id).trans
          (hsaved.trans (h.holds.saved? hopen id).symm)

/-- **A move touches the aggregate it is about only.** -/
theorem Sane.alikeOn_step (h : s.Sane u l) {m : Move} (hm : s.Spares u m)
    (hother : s.subject? m ≠ some id) : s.AlikeOn (s.step m) id := by
  cases m with
  | start i c =>
      simp only [System.step]
      split
      · rename_i w hi
        exact ⟨rfl, rfl, kept_put (idle?_some hi) rfl⟩
      · exact s.alikeOn_refl id
  | advance i stamp =>
      simp only [System.step]
      split
      · rename_i w t hi
        refine h.alikeOn_proceed hi stamp (hm.kept hi) fun heq => hother ?_
        exact (congrArg (Option.map _) hi).trans (congrArg some heq.symm)
      · exact s.alikeOn_refl id
  | refuse i f =>
      simp only [System.step]
      split
      · rename_i w t hi
        unfold System.fail
        split
        · exact ⟨rfl, rfl, kept_put (busy?_some hi).1 rfl⟩
        · exact s.alikeOn_refl id
      · exact s.alikeOn_refl id
  | append stream expected batch =>
      have hopen := h.faithful.opened
      obtain ⟨l', hl', hholds⟩ := h.appended stream expected hm
      have hsame : l'.closed = false ∧ l'.events id = l.events id ∧ l'.snapshots = l.snapshots := by
        rcases hl' with rfl | rfl
        · exact ⟨hopen, rfl, rfl⟩
        · exact ⟨hopen, Ledger.events_extend_of_ne l (fun heq => hother (congrArg some heq)) batch, rfl⟩
      obtain ⟨hopen', hevents, hsaved⟩ := hsame
      refine ⟨?_, ?_, rfl⟩
      · exact (hholds.stream hopen' id).trans (hevents.trans (h.holds.stream hopen id).symm)
      · exact (hholds.saved? hopen' id).trans
          ((congrArg (Dict.get? · id) hsaved).trans (h.holds.saved? hopen id).symm)

/-! ### Everything kept -/

/-- Whatever is kept beside the log is what the events lead to, and whatever is about one aggregate
touches that aggregate only. -/
structure Replayed (s : System) (u : Setup) : Prop where
  cached : ∀ w ∈ s.workers, ∀ id i, w.engine.instances.get? id = some i →
    u.StateAt (s.store.stream id) i.version i.net.marking
  saved : ∀ id x, s.store.saved? id = some x → ∃ m : Marking,
    x.state = m.toJson ∧ m.Finite ∧ u.StateAt (s.store.stream id) x.version m
  loaded : ∀ f ∈ s.finished, f.outcome.Current u f.command f.trace s.store.stream
  apart : ∀ m id, s.Spares u m → s.subject? m ≠ some id → s.AlikeOn (s.step m) id

theorem Sane.replayed (h : s.Sane u l) : s.Replayed u where
  cached w hw id i hi := by
    obtain ⟨k, hk⟩ := ((h.workers w hw).engine.get? hi).place
    rw [h.holds.stream h.faithful.opened]
    exact hk.stateAt
  saved id x hx := by
    rw [h.holds.saved? h.faithful.opened] at hx
    obtain ⟨k, hk⟩ := h.faithful.saved id x hx
    rw [h.holds.stream h.faithful.opened]
    exact hk.stateAt
  loaded f hf := by
    rw [funext (h.holds.stream h.faithful.opened)]
    exact (h.finished f hf).current
  apart _ _ hm hother := h.alikeOn_step hm hother

/-- **What is kept is what a replay gives**, in every system that idle engines on a new store reach
without losing anything. -/
theorem replayed_run (u : Setup) {store : Store} (hs : store.Holds .empty) (engines : Nat)
    {moves : List Move} (hm : (idle u store engines).Lossless u moves) :
    ((idle u store engines).run moves).Replayed u := by
  obtain ⟨l, -, h⟩ := (sane_idle u hs engines).run hm
  exact h.replayed

/-- The hall is booked, and then both engines load it, the second one after it has forgotten it. -/
def loadings : List Move :=
  bookings ++ [.start 0 (.loadState "hall"), .start 1 (.evict "hall")] ++
    List.replicate 10 (.advance 0 ⟨⟨3⟩, ⟨0, 0⟩⟩) ++ List.replicate 10 (.advance 1 ⟨⟨4⟩, ⟨0, 0⟩⟩) ++
    .start 1 (.loadState "hall") :: List.replicate 10 (.advance 1 ⟨⟨5⟩, ⟨0, 0⟩⟩)

theorem unbound_loadings : ∀ i c, .start i c ∈ loadings → c.bindings = [] := by
  intro i c hc
  simp only [loadings, List.mem_append, List.mem_cons, List.mem_replicate, List.not_mem_nil,
    reduceCtorEq, Move.start.injEq, or_false, and_false] at hc
  rcases hc with (hc | ⟨-, rfl⟩ | ⟨-, rfl⟩) | ⟨-, rfl⟩
  · exact unbound_bookings i c hc
  all_goals rfl

theorem replayed_loadings :
    ((idle booking (.memory (.new 1)) 2).run loadings).finished.length = 5 ∧
      ((idle booking (.memory (.new 1)) 2).run loadings).Replayed booking :=
  ⟨by decide +kernel,
    replayed_run booking (Store.holds_memory_new 1) 2 (lossless_booking unbound_loadings)⟩

/-! #### Numbers that are read inexactly

A database does not always read a number from its text as the double that was written.  Then an
engine keeps another level than the one that its event leads to when it is replayed. -/

/-- A level that can be set. -/
def gauge : Definition :=
  ⟨"gauge", none, [.data "level" "number"], [.plain "set"],
    [⟨"set", "level", 1, [], "x", false⟩], []⟩

def gauging : Setup where
  schema := ⟨gauge, .ofDefinition gauge, Definition.check_of_isOk (by decide +kernel), rfl⟩
  evaluator := .standard []
  settings := ⟨none, 3, false⟩
  distinct := by decide
  extensional := GuardEvaluator.extensional_builtins
  ordered := List.forall_mem_cons.mpr ⟨trivial, fun _ h => absurd h List.not_mem_nil⟩

/-- One engine sets the level. -/
def settings : List Move :=
  .start 0 (.execute "a" "set" [("x", .number 9635142315569102556)] none) ::
    List.replicate 20 (.advance 0 ⟨⟨1⟩, ⟨0, 0⟩⟩)

/-- The bits of the level. -/
def levelBits? (m : Marking) : Option UInt64 :=
  ((m.value? "level").bind Value.number?).map Float.toBits

theorem kept_unlike_replayed :
    ∃ w ∈ ((idle gauging (.database (.new 1) .new) 1).run settings).workers, ∃ i,
      w.engine.instances.get? "a" = some i ∧
      ¬ gauging.StateAt (((idle gauging (.database (.new 1) .new) 1).run settings).store.stream "a")
        i.version i.net.marking := by
  have hfar : ((idle gauging (.database (.new 1) .new) 1).run settings).workers.any (fun w =>
      (w.engine.instances.get? "a").any fun i => i.version == 0 && levelBits? i.net.marking.plain !=
        levelBits? (gauging.fold ((((idle gauging (.database (.new 1) .new) 1).run
          settings).store.stream "a").take 1)).plain) = true := by decide +kernel
  obtain ⟨w, hw, hany⟩ := List.any_eq_true.mp hfar
  obtain ⟨i, hi, hfar⟩ := (Option.any_eq_true _ _).mp hany
  obtain ⟨hversion, hlevel⟩ := Bool.and_eq_true_iff.mp hfar
  refine ⟨w, hw, i, hi, fun hstate => ?_⟩
  obtain ⟨k, -, hk, hm⟩ := hstate
  have hone : k = 1 := by
    have := eq_of_beq hversion
    omega
  rw [hm, hone] at hlevel
  exact absurd hlevel (by simp)

end System

end EventNet
