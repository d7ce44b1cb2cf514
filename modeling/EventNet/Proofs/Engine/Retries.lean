import EventNet.Proofs.Engine.Existence

/-!
Trying again after conflicts.

A program runs in `Circumstances`: before each of its calls others make calls of their own, and the call
may be refused.  An attempt at a command is a whole run of it, on the engine and the store that the
attempt before has left.  What one attempt does is told in terms of its catching up: it executes on the
instance that has replayed what the store has then, and if it fails, what is kept is that instance
again.  The attempts of a command are then counted by induction on the tries that are left.
-/

namespace EventNet

/-! ### A program among others -/

/-- What happens around one call of a program. -/
structure Incident where
  /-- The calls that others make before it. -/
  others : List StoreCall
  /-- Whether the call is refused, and with which fault. -/
  refusal : Option Fault

/-- What happens around the calls of a program, and the stamps that it gets. -/
structure Circumstances where
  incidents : Nat → Incident
  stamps : Nat → Stamp

/-- A store in the course of a program. -/
structure Scene where
  store : Store
  /-- How many calls the program has made. -/
  calls : Nat
  /-- How many stamps it has taken. -/
  stamped : Nat
  /-- The rows that its calls have added. -/
  added : List EventRow

namespace Circumstances

/-- Others make their calls, and then a call is refused or answered by the store. -/
def answer (w : Circumstances) (c : StoreCall) : StateM Scene c.Answer := fun s =>
  let incident := w.incidents s.calls
  let store := incident.others.foldl (fun store c => (store.answer c).2) s.store
  match incident.refusal with
  | some f => (c.refusal f, { s with store, calls := s.calls + 1 })
  | none =>
    let r := store.answer c
    (r.1, { s with store := r.2, calls := s.calls + 1,
                   added := s.added ++ r.2.rows.drop store.rows.length })

/-- Answers to a program among others. -/
def host (w : Circumstances) : Host (StateM Scene) where
  call := w.answer
  stamp := fun s => (w.stamps s.stamped, { s with stamped := s.stamped + 1 })
  report _ := pure ()

/-- Run a program. -/
def run {α : Type} (w : Circumstances) (p : Program α) (s : Scene) : α × Scene :=
  p.run w.host s

/-- What a run leads to has a property. -/
def Ensures {α : Type} (w : Circumstances) (p : Program α) (s : Scene) (Q : α → Scene → Prop) : Prop :=
  Q (w.run p s).1 (w.run p s).2

variable {α β : Type} {w : Circumstances} {s : Scene} {id : String} {p : Program α}
  {P Q : α → Scene → Prop}

theorem run_bind (w : Circumstances) (p : Program α) (f : α → Program β) (s : Scene) :
    w.run (p >>= f) s = w.run (f (w.run p s).1) (w.run p s).2 := by
  show w.run (p.andThen f) s = _
  induction p generalizing s with
  | done a => rfl
  | call c next ih => exact ih (w.answer c s).1 (w.answer c s).2
  | stamp next ih => exact ih (w.stamps s.stamped) { s with stamped := s.stamped + 1 }
  | report signals next ih => exact ih s

theorem ensures_bind {f : α → Program β} {R : β → Scene → Prop}
    (h : w.Ensures p s fun a s => w.Ensures (f a) s R) : w.Ensures (p >>= f) s R := by
  unfold Ensures
  rw [w.run_bind]
  exact h

theorem Ensures.imp (h : w.Ensures p s P) (hPQ : ∀ a s', P a s' → Q a s') : w.Ensures p s Q :=
  hPQ _ _ h

/-! #### Single calls -/

/-- A call is refused without effect, or the store answers it. -/
theorem answer_cases (w : Circumstances) (c : StoreCall) (s : Scene) :
    (∃ f, (w.answer c s).1 = c.refusal f ∧ (w.answer c s).2.added = s.added) ∨
    ∃ store : Store, (w.answer c s).1 = (store.answer c).1 ∧
      (w.answer c s).2.store = (store.answer c).2 ∧
      (w.answer c s).2.added = s.added ++ (store.answer c).2.rows.drop store.rows.length := by
  unfold answer
  dsimp only
  split
  · rename_i f _
    exact Or.inl ⟨f, rfl, rfl⟩
  · exact Or.inr ⟨_, rfl, rfl, rfl⟩

/-- A call that leaves the rows of every store adds none. -/
theorem added_answer {c : StoreCall} (h : ∀ store : Store, (store.answer c).2.rows = store.rows)
    (s : Scene) : (w.answer c s).2.added = s.added := by
  rcases w.answer_cases c s with ⟨f, -, hadded⟩ | ⟨store, -, -, hadded⟩
  · exact hadded
  · rw [hadded, h, List.drop_length, List.append_nil]

theorem ensures_loadSnapshot :
    w.Ensures (Program.loadSnapshot id) s fun _ s' => s'.added = s.added := by
  refine added_answer (c := .loadSnapshot id) (fun store => ?_) s
  cases store <;> rfl

/-- What is read is what the store reads then. -/
theorem ensures_read {start : Int} :
    w.Ensures (Program.read id start) s fun r s' => s'.added = s.added ∧
      ∀ events, r = .ok events → (s'.store.read id start).value.1 = .ok events := by
  refine ⟨added_answer (c := .read id start) (fun store => ?_) s, fun events h => ?_⟩
  · cases store <;> rfl
  · have h : (w.answer (.read id start) s).1 = .ok events := h
    show ((w.answer (.read id start) s).2.store.read id start).value.1 = .ok events
    rcases w.answer_cases (.read id start) s with ⟨f, hanswer, -⟩ | ⟨store, hanswer, hstore, -⟩
    · cases hanswer.symm.trans h
    · rw [hstore, ← h, hanswer]
      cases store <;> rfl

/-- An append is refused and adds nothing, or it adds the batch in its place. -/
theorem ensures_append {expected : Int} {batch : List Event} :
    w.Ensures (Program.append id expected batch) s fun r s' =>
      (∃ f, r = .error f ∧ s'.added = s.added) ∨
      r = .ok (expected + batch.length) ∧
        s'.added = s.added ++ (Batch.numberFrom id (expected + 1) batch).map EventRow.ofEvent := by
  show (∃ f, (w.answer (.append id expected batch) s).1 = _ ∧
      (w.answer (.append id expected batch) s).2.added = _) ∨
    (w.answer (.append id expected batch) s).1 = _ ∧
      (w.answer (.append id expected batch) s).2.added = _
  rcases w.answer_cases (.append id expected batch) s with
    ⟨f, hanswer, hadded⟩ | ⟨store, hanswer, -, hadded⟩
  · exact Or.inl ⟨f, hanswer, hadded⟩
  · rw [hanswer, hadded]
    show (∃ f, (store.append id expected batch).value.1 = .error f ∧
        s.added ++ (store.append id expected batch).value.2.rows.drop _ = _) ∨
      (store.append id expected batch).value.1 = _ ∧
        s.added ++ (store.append id expected batch).value.2.rows.drop _ = _
    rcases store.rows_append id expected batch with ⟨hok, hrows⟩ | ⟨⟨f, herror⟩, hrows⟩
    · rw [hrows, List.drop_left]
      exact Or.inr ⟨hok, rfl⟩
    · rw [hrows, List.drop_length, List.append_nil]
      exact Or.inl ⟨f, herror, rfl⟩

theorem ensures_saveSnapshot {x : StateSnapshot} :
    w.Ensures (Program.saveSnapshot x) s fun _ s' => s'.added = s.added :=
  added_answer (c := .saveSnapshot x) (fun store => store.rows_saveSnapshot x) s

theorem ensures_newStamp {Q : Stamp → Scene → Prop} (h : ∀ stamp s', s'.added = s.added → Q stamp s') :
    w.Ensures Program.newStamp s Q :=
  h _ _ rfl

end Circumstances

/-! ### Catching up -/

namespace Instance

variable {w : Circumstances} {s : Scene} {id : String} {types : EventTypes} {checks : Bool}
  {i : Instance}

/-- An instance that has replayed events. -/
def follow (types : EventTypes) (checks : Bool) (i : Instance) : List Event → Instance
  | [] => i
  | e :: rest => ((i.withCheck false).replayAll types (e :: rest)).value.withCheck checks

theorem ensures_loadSaved :
    w.Ensures (i.loadSaved id) s fun _ s' => s'.added = s.added := by
  unfold loadSaved
  split
  · rfl
  refine Circumstances.ensures_bind (Circumstances.ensures_loadSnapshot.imp ?_)
  rintro (f | _ | saved) s' hadded
  · exact hadded
  · exact hadded
  · dsimp only
    split <;> exact hadded

/-- What replaying the rest of a stream leaves: the events that the store has then are replayed. -/
theorem ensures_replayTail :
    w.Ensures (i.replayTail types checks id) s fun r s' => s'.added = s.added ∧
      (r.1 = .ok () → ∃ events, (s'.store.read id (i.version + 1)).value.1 = .ok events ∧
        r.2 = i.follow types checks events) := by
  unfold replayTail
  refine Circumstances.ensures_bind (Circumstances.ensures_read.imp ?_)
  rintro (f | _ | ⟨e, rest⟩) s' ⟨hadded, hread⟩
  · exact ⟨hadded, fun hok => nomatch hok⟩
  · exact ⟨hadded, fun _ => ⟨[], hread [] rfl, rfl⟩⟩
  · exact ⟨hadded, fun _ => ⟨e :: rest, hread (e :: rest) rfl, rfl⟩⟩

/-- What catching up leaves.  If it succeeds, the instance has replayed the events that the store has
then, from the version on that it had or that was saved. -/
structure FollowedTo (i : Instance) (w : Circumstances) (id : String) (types : EventTypes)
    (checks : Bool) (s : Scene) (r : Except Fault Unit × Instance) (s' : Scene) : Prop where
  added : s'.added = s.added
  current : r.1 = .ok () → ∃ events,
    (s'.store.read id ((w.run (i.loadSaved id) s).1.2.version + 1)).value.1 = .ok events ∧
      r.2 = (w.run (i.loadSaved id) s).1.2.follow types checks events

theorem ensures_sync :
    w.Ensures (i.sync types checks id) s (i.FollowedTo w id types checks s) := by
  have hloaded : (w.run (i.loadSaved id) s).2.added = s.added := ensures_loadSaved
  unfold sync
  refine Circumstances.ensures_bind ?_
  show w.Ensures _ (w.run (i.loadSaved id) s).2 _
  rcases hrun : w.run (i.loadSaved id) s with ⟨⟨r, i'⟩, s₁⟩
  rw [hrun] at hloaded
  cases r with
  | error f => exact ⟨hloaded, fun hok => nomatch hok⟩
  | ok _ =>
      refine ensures_replayTail.imp fun r s' htail => ⟨htail.1.trans hloaded, ?_⟩
      rw [hrun]
      exact htail.2

end Instance

/-! ### One attempt -/

/-- The row of the event that is answered. -/
def recordedRows : Except Fault Event → List EventRow
  | .ok ev => [EventRow.ofEvent ev.stored]
  | .error _ => []

/-- An action was executed on an instance once, and its event stands behind those that the instance had
seen. -/
structure Instance.Applied (i : Instance) (id action : String) (b : Bindings) (ev : Event)
    (after : Instance) : Prop where
  stream : ev.stream = id
  version : ev.version = i.version + 1
  once : ∃ net, i.net.executeWith action b = (.ok (), net) ∧
    after = { i with net, version := ev.version }

/-- What executing on an instance leaves: the event that is answered is the one row that was added, and
if there is none, the instance is as it was. -/
structure Instance.Performed (i : Instance) (id action : String) (b : Bindings) (s : Scene)
    (r : Except Fault Event × Instance) (s' : Scene) : Prop where
  added : s'.added = s.added ++ recordedRows r.1
  applied : ∀ ev, r.1 = .ok ev → i.Applied id action b ev r.2
  undone : ∀ f, r.1 = .error f → r.2 = i

namespace Engine

variable {w : Circumstances} {s : Scene} {id action : String} {b : Bindings}
  {metadata : Option Metadata} {e : Engine} {i : Instance}

theorem ensures_saveIfDue :
    w.Ensures (e.saveIfDue id i) s fun _ s' => s'.added = s.added := by
  unfold saveIfDue
  split
  · refine Circumstances.ensures_bind (Circumstances.ensures_newStamp fun stamp s₁ hstamp => ?_)
    refine Circumstances.ensures_bind (Circumstances.ensures_saveSnapshot.imp ?_)
    rintro (f | _) s' hadded
    · exact hadded.trans hstamp
    · exact hadded.trans hstamp
  · rfl

/-- An execution that fails leaves the instance. -/
private theorem performed_error {f : Fault} {s' : Scene} (h : s'.added = s.added) :
    i.Performed id action b s (.error f, i) s' where
  added := h.trans (List.append_nil _).symm
  applied _ hev := nomatch hev
  undone _ _ := rfl

theorem ensures_record {net : Net} (hexec : i.net.executeWith action b = (.ok (), net)) :
    w.Ensures (e.record id action b metadata i.net.marking { i with net }) s
      (i.Performed id action b s) := by
  have hnet := Net.executeWith_frame hexec
  have hback : Instance.restore { i with net } i.net.marking = i := by
    rw [hnet]
    rfl
  unfold record
  refine Circumstances.ensures_bind (Circumstances.ensures_newStamp fun stamp s₁ hstamp => ?_)
  refine Circumstances.ensures_bind (Circumstances.ensures_append.imp ?_)
  rw [hstamp]
  rintro (f | version) s' happend
  · rcases happend with ⟨_, -, hadded⟩ | ⟨hok, -⟩
    · show i.Performed id action b s (.error f, Instance.restore { i with net } i.net.marking) s'
      rw [hback]
      exact performed_error hadded
    · cases hok
  · rcases happend with ⟨f, herror, -⟩ | ⟨hok, hadded⟩
    · cases herror
    · obtain rfl := Except.ok.inj hok
      refine Circumstances.ensures_bind (ensures_saveIfDue.imp fun _ s'' hsaved => ?_)
      refine ⟨hsaved.trans hadded, fun ev hev => ?_, fun f hf => nomatch hf⟩
      obtain rfl := Except.ok.inj hev
      exact ⟨rfl, rfl, net, hexec, rfl⟩

theorem ensures_executeCaughtUp :
    w.Ensures (e.executeCaughtUp id action b metadata i) s (i.Performed id action b s) := by
  unfold executeCaughtUp
  split
  · exact performed_error rfl
  · refine Circumstances.ensures_bind ?_
    show w.Ensures _ s _
    rcases hexec : i.net.executeWith action b with ⟨r, net⟩
    cases r with
    | error f =>
        rw [Net.executeWith_failed hexec]
        exact performed_error rfl
    | ok _ => exact ensures_record hexec

theorem ensures_executeOn :
    w.Ensures (e.executeOn id action b metadata i) s
      ((w.run (e.sync id i) s).1.2.Performed id action b (w.run (e.sync id i) s).2) := by
  unfold executeOn
  refine Circumstances.ensures_bind ?_
  show w.Ensures _ (w.run (e.sync id i) s).2 _
  rcases w.run (e.sync id i) s with ⟨⟨r, i'⟩, s'⟩
  cases r with
  | error f => exact performed_error rfl
  | ok _ => exact ensures_executeCaughtUp

/-- An attempt ends in a conflict. -/
def EndsInConflict (r : Except Fault Event) : Prop :=
  ∃ f, r = .error f ∧ isConflict f = true

/-- What is kept of an instance when a command has failed: nothing if it has seen no events. -/
def keptAfterFailure (i : Instance) : Option Instance :=
  if i.version = noStream then none else some i

/-- Catch up what is kept of an aggregate. -/
def caughtUp (w : Circumstances) (id : String) (e : Engine) (s : Scene) :
    (Except Fault Unit × Instance) × Scene :=
  w.run (e.sync id ((e.instances.get? id).getD e.fresh)) s

/-- What an attempt leaves, told in terms of its catching up. -/
structure Attempted (e : Engine) (w : Circumstances) (id action : String) (b : Bindings) (s : Scene)
    (r : Except Fault Event × Engine) (s' : Scene) : Prop where
  added : s'.added = s.added ++ recordedRows r.1
  applied : ∀ ev, r.1 = .ok ev → ∃ i, r.2.instances.get? id = some i ∧
    (caughtUp w id e s).1.2.Applied id action b ev i
  undone : EndsInConflict r.1 → r.2.instances.get? id = keptAfterFailure (caughtUp w id e s).1.2
  sorted : r.2.instances.Sorted

theorem sorted_settle (h : e.instances.Sorted) (r : Except Fault Event) (i : Instance) :
    (e.settle id r i).instances.Sorted := by
  unfold settle
  cases r with
  | ok ev => exact h.insert id i
  | error f =>
      dsimp only
      split
      · exact h.erase id
      · exact h.insert id i

/-- What is kept of the aggregate after a failure. -/
theorem get?_settle_error (h : e.instances.Sorted) (f : Fault) (i : Instance) :
    (e.settle id (.error f) i).instances.get? id = keptAfterFailure i := by
  unfold settle keptAfterFailure
  dsimp only
  split
  · exact h.get?_erase_self id
  · exact Dict.get?_insert_self _ _ _

theorem ensures_execute (h : e.instances.Sorted) :
    w.Ensures (e.execute id action b none) s (e.Attempted w id action b s) := by
  unfold execute
  split
  · refine ⟨(List.append_nil _).symm, fun ev hev => (nomatch hev), fun hconflict => ?_, h⟩
    obtain ⟨f, hf, hconflict⟩ := hconflict
    obtain rfl := Except.error.inj hf
    exact absurd hconflict Bool.false_ne_true
  · have hadded : (caughtUp w id e s).2.added = s.added := Instance.ensures_sync.added
    refine Circumstances.ensures_bind (ensures_executeOn.imp ?_)
    rintro ⟨r, i⟩ s' hr
    refine ⟨hr.added.trans (hadded ▸ rfl), fun ev hev => ?_, ?_, sorted_settle h r i⟩
    · obtain rfl : r = .ok ev := hev
      exact ⟨i, Dict.get?_insert_self _ _ _, hr.applied ev rfl⟩
    rintro ⟨f, rfl, -⟩
    obtain rfl := hr.undone f rfl
    exact get?_settle_error h f _

/-! ### One attempt after the other -/

section

variable (w : Circumstances) (id action : String) (b : Bindings)

/-- The engine and the scene before each attempt. -/
def before : Engine → Scene → Nat → Engine × Scene
  | e, s, 0 => (e, s)
  | e, s, k + 1 =>
    before (w.run (e.execute id action b none) s).1.2 (w.run (e.execute id action b none) s).2 k

/-- The attempts at a command. -/
def attempt (e : Engine) (s : Scene) (k : Nat) : (Except Fault Event × Engine) × Scene :=
  w.run ((before w id action b e s k).1.execute id action b none) (before w id action b e s k).2

end

theorem sorted_before (h : e.instances.Sorted) (s : Scene) (k : Nat) :
    (before w id action b e s k).1.instances.Sorted := by
  induction k generalizing e s with
  | zero => exact h
  | succ k ih => exact ih (ensures_execute h).sorted _

theorem attempted (h : e.instances.Sorted) (s : Scene) (k : Nat) :
    (before w id action b e s k).1.Attempted w id action b (before w id action b e s k).2
      (attempt w id action b e s k).1 (attempt w id action b e s k).2 :=
  ensures_execute (sorted_before h s k)

/-- What is before an attempt is what the attempt before it has left. -/
theorem before_succ (e : Engine) (s : Scene) (k : Nat) :
    before w id action b e s (k + 1) =
      ((attempt w id action b e s k).1.2, (attempt w id action b e s k).2) := by
  induction k generalizing e s with
  | zero => rfl
  | succ k ih => exact ih _ _

/-- Attempts that end in conflict add nothing. -/
theorem added_before (h : e.instances.Sorted) {n : Nat}
    (hconflicts : ∀ k < n, EndsInConflict (attempt w id action b e s k).1.1) :
    (before w id action b e s n).2.added = s.added := by
  induction n with
  | zero => rfl
  | succ n ih =>
      obtain ⟨f, hf, -⟩ := hconflicts n (Nat.lt_succ_self n)
      rw [before_succ, (attempted h s n).added, hf, ih fun k hk => hconflicts k (Nat.lt_succ_of_lt hk)]
      exact List.append_nil _

/-- The last try is not repeated. -/
theorem run_executeUpTo_zero (e : Engine) (s : Scene) :
    w.run (executeUpTo id action b 0 e) s = attempt w id action b e s 0 := by
  unfold executeUpTo
  rw [w.run_bind]
  show _ = w.run (e.execute id action b none) s
  rcases w.run (e.execute id action b none) s with ⟨⟨f | ev, e'⟩, s'⟩ <;> rfl

/-- An attempt that does not end in a conflict is not repeated. -/
theorem run_executeUpTo_of_not_conflict {tries : Nat}
    (hno : ¬ EndsInConflict (attempt w id action b e s 0).1.1) :
    w.run (executeUpTo id action b (tries + 1) e) s = attempt w id action b e s 0 := by
  unfold executeUpTo
  rw [w.run_bind]
  change ¬ EndsInConflict (w.run (e.execute id action b none) s).1.1 at hno
  show _ = w.run (e.execute id action b none) s
  revert hno
  rcases w.run (e.execute id action b none) s with ⟨⟨f | ev, e'⟩, s'⟩
  · intro hno
    dsimp only
    rw [if_neg fun hconflict => hno ⟨f, rfl, hconflict⟩]
    rfl
  · exact fun _ => rfl

/-- An attempt that ends in a conflict is repeated. -/
theorem run_executeUpTo_of_conflict {tries : Nat}
    (hconflict : EndsInConflict (attempt w id action b e s 0).1.1) :
    w.run (executeUpTo id action b (tries + 1) e) s =
      w.run (executeUpTo id action b tries (attempt w id action b e s 0).1.2)
        (attempt w id action b e s 0).2 := by
  rw [executeUpTo, w.run_bind]
  change EndsInConflict (w.run (e.execute id action b none) s).1.1 at hconflict
  show _ = w.run (executeUpTo id action b tries (w.run (e.execute id action b none) s).1.2)
    (w.run (e.execute id action b none) s).2
  revert hconflict
  rcases w.run (e.execute id action b none) s with ⟨⟨f | ev, e'⟩, s'⟩
  · rintro ⟨_, hf, hconflict⟩
    obtain rfl := Except.error.inj hf
    dsimp only
    rw [if_pos hconflict, w.run_bind]
    rfl
  · rintro ⟨f, hf, -⟩
    cases hf

/-- A command with some tries ends with its first attempt that does not end in a conflict, or with the
last one that it may make. -/
theorem run_executeUpTo (tries : Nat) (e : Engine) (s : Scene) : ∃ n ≤ tries,
    w.run (executeUpTo id action b tries e) s = attempt w id action b e s n ∧
    (∀ k < n, EndsInConflict (attempt w id action b e s k).1.1) ∧
    (EndsInConflict (attempt w id action b e s n).1.1 → n = tries) := by
  induction tries generalizing e s with
  | zero =>
      exact ⟨0, Nat.le_refl 0, run_executeUpTo_zero e s,
        fun k hk => absurd hk (Nat.not_lt_zero k), fun _ => rfl⟩
  | succ tries ih =>
      by_cases hfirst : EndsInConflict (attempt w id action b e s 0).1.1
      · obtain ⟨n, hn, hrun, hconflicts, hexhausted⟩ :=
          ih (attempt w id action b e s 0).1.2 (attempt w id action b e s 0).2
        refine ⟨n + 1, Nat.succ_le_succ hn, (run_executeUpTo_of_conflict hfirst).trans hrun, ?_,
          fun hconflict => congrArg (· + 1) (hexhausted hconflict)⟩
        intro k hk
        cases k with
        | zero => exact hfirst
        | succ k => exact hconflicts k (Nat.lt_of_succ_lt_succ hk)
      · exact ⟨0, Nat.zero_le _, run_executeUpTo_of_not_conflict hfirst,
          fun k hk => absurd hk (Nat.not_lt_zero k), fun hconflict => absurd hconflict hfirst⟩

/-- How a command goes that is tried again after conflicts, with its attempts counted from 0. -/
structure Retried (w : Circumstances) (id action : String) (b : Bindings) (e : Engine) (s : Scene)
    (last : Nat) : Prop where
  bounded : last ≤ e.settings.maxRetries
  /-- The command answers and leaves what its last attempt does. -/
  outcome : w.run (e.executeWithRetry id action b) s = attempt w id action b e s last
  conflicts : ∀ k < last, EndsInConflict (attempt w id action b e s k).1.1
  exhausted : EndsInConflict (attempt w id action b e s last).1.1 → last = e.settings.maxRetries
  /-- Of all attempts together, the event that is answered is the only row. -/
  added : (attempt w id action b e s last).2.added =
    s.added ++ recordedRows (attempt w id action b e s last).1.1
  /-- Every attempt catches up with the events that the store has then. -/
  current : ∀ k ≤ last, let (e', s') := before w id action b e s k
    ((e'.instances.get? id).getD e'.fresh).FollowedTo w id e'.types e'.settings.checkConstraints s'
      (caughtUp w id e' s').1 (caughtUp w id e' s').2
  /-- The action of the event that is answered was executed once on what was caught up, and that is
  kept. -/
  applied : ∀ ev, (attempt w id action b e s last).1.1 = .ok ev →
    let (e', s') := before w id action b e s last
    ∃ i, (attempt w id action b e s last).1.2.instances.get? id = some i ∧
      (caughtUp w id e' s').1.2.Applied id action b ev i
  /-- Between two attempts what is kept is the instance as the first of them has caught it up. -/
  undone : ∀ k < last, let (e', s') := before w id action b e s k
    (before w id action b e s (k + 1)).1.instances.get? id =
      keptAfterFailure (caughtUp w id e' s').1.2

/-- **A command is tried again after conflicts only, each time from the stream as it stands then**, at
most as often as the settings allow, and whatever the store answers and others do in between.  It answers
what the first attempt does that does not end in a conflict, or the last one that it may make; one event
is added if an event is answered, and none otherwise; and no refused attempt leaves a trace in what is
kept. -/
theorem executeWithRetry_retried (w : Circumstances) {e : Engine} (h : e.instances.Sorted)
    (id action : String) (b : Bindings) (s : Scene) : ∃ last, Retried w id action b e s last := by
  obtain ⟨n, hn, hrun, hconflicts, hexhausted⟩ : ∃ n ≤ e.settings.maxRetries,
      w.run (executeUpTo id action b e.settings.maxRetries e) s = attempt w id action b e s n ∧
      (∀ k < n, EndsInConflict (attempt w id action b e s k).1.1) ∧
      (EndsInConflict (attempt w id action b e s n).1.1 → n = e.settings.maxRetries) :=
    run_executeUpTo _ e s
  refine ⟨n, hn, hrun, hconflicts, hexhausted, ?_, fun k _ => Instance.ensures_sync,
    (attempted h s n).applied, fun k hk => ?_⟩
  · rw [(attempted h s n).added, added_before h hconflicts]
  · rw [before_succ]
    exact (attempted h s k).undone (hconflicts k hk)

/-- The first append is refused as a conflict.  Before the second one somebody else writes to the hall. -/
def interferences : Circumstances where
  incidents n :=
    if n = 2 then ⟨[], some (.conflict "hall" (-1) 0)⟩
    else if n = 5 then
      ⟨[.append "hall" (-1) [.new ⟨⟨7⟩, ⟨0, 0⟩⟩ "hall" "Cleaned" (.obj [])]], none⟩
    else ⟨[], none⟩
  stamps n := ⟨⟨n⟩, ⟨0, 0⟩⟩

/-- A new store in memory. -/
def stage : Scene :=
  ⟨.memory (.new 1), 0, 0, []⟩

/-- Two attempts end in conflict, and the third one books the hall behind the event that was written in
between. -/
theorem retried_interferences :
    System.bookingEngine.instances.Sorted ∧
      (interferences.run (System.bookingEngine.executeWithRetry "hall" "book" []) stage).1.1.toOption.map
        (·.version) = some 1 ∧
      (interferences.run (System.bookingEngine.executeWithRetry "hall" "book" []) stage).2.calls = 10 ∧
      ∃ last, Retried interferences "hall" "book" [] System.bookingEngine stage last := by
  have hsorted : System.bookingEngine.instances.Sorted := Dict.sorted_nil
  exact ⟨hsorted, by decide +kernel, by decide +kernel,
    executeWithRetry_retried interferences hsorted "hall" "book" [] stage⟩

end Engine

end EventNet
