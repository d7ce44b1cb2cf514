import EventNet.Proofs.Engine.Assurance

/-!
What the commands of an engine can be relied on for.

An instance `Fits` a history when it has the marking of some of the first events of it; others can only
add events, so it goes on fitting.  Catching up takes an instance that fits to the end of its stream as
it is read.  An action that is executed there is recorded only if the stream has not grown since, and
then its event is valid in its place and the instance fits again; if the append is refused, the instance
has its marking from before.  An engine fits if its instances do, and every command leaves it fitting.
-/

namespace EventNet

/-- An event as it is in a store. -/
def Event.stored (e : Event) : Event :=
  { e with timestamp := e.timestamp.toMicrosecond }

/-- An instance that has the marking of some of the first events of a history. -/
structure Instance.Fits (i : Instance) (u : Setup) (history : List Event) : Prop where
  place : ∃ k, i.At u history k
  checks : i.net.checksConstraints = u.settings.checkConstraints

namespace Instance

variable {u : Setup} {id : String} {i : Instance} {t : Trace} {l l' : Ledger}

theorem Fits.extend {history later : List Event} (h : i.Fits u history) (hl : history <+: later) :
    i.Fits u later := by
  obtain ⟨k, hk⟩ := h.place
  exact ⟨⟨k, hk.extend hl⟩, h.checks⟩

theorem fits_fresh (u : Setup) (history : List Event) :
    (fresh u.schema u.evaluator u.settings.checkConstraints).Fits u history :=
  ⟨⟨0, fresh_at u _ history⟩, rfl⟩

/-- If a stream has not grown since an instance was caught up, an event that is appended comes right
after the history that the instance has seen. -/
theorem At.events_extend (hi : i.At u (l.events id) (l.events id).length) (hl : l.Extends l')
    (hversion : l'.version id = i.version) (ev : Event) :
    (l'.extend id [ev]).events id = l.events id ++ [Batch.place id (i.version + 1) ev] := by
  have hlength : (l.events id).length = (l'.events id).length := by
    have := hi.version
    rw [l'.version_eq] at hversion
    omega
  rw [Ledger.events_extend_self, ← (hl id).eq_of_length hlength, hversion]
  rfl

/-! ### Catching up -/

theorem secures_loadSaved (h : i.Fits u (l.events id)) :
    (i.loadSaved id).Secures u id (fun r t' l' => r.2.Fits u (l'.events id) ∧ t'.added = t.added ∧
      ∀ f, r.1 = .error f → t'.refused = true) t l := by
  unfold loadSaved
  by_cases hloaded : i.loaded = true
  · rw [if_pos hloaded]
    exact ⟨h, rfl, by simp⟩
  rw [if_neg hloaded]
  refine Program.secures_bind (Program.secures_loadSnapshot fun l' hl hf => ⟨?_, fun f => ?_⟩)
  · have hfits := h.extend (hl id)
    obtain ⟨k, hk⟩ := hfits.place
    cases hget : l'.snapshots.get? id with
    | none => exact ⟨⟨⟨k, hk.schema, hk.evaluator, hk.within, hk.version, hk.marking⟩, hfits.checks⟩,
        rfl, by simp⟩
    | some saved =>
        obtain ⟨j, hj⟩ := hf.saved id saved hget
        rcases hj.read with hread | ⟨m, hread, hm⟩
        · simp only [hread]
          exact ⟨⟨⟨k, hk.schema, hk.evaluator, hk.within, hk.version, hk.marking⟩, hfits.checks⟩,
            rfl, by simp⟩
        · simp only [hread]
          exact ⟨⟨⟨j, hk.schema, hk.evaluator, hj.within, hj.version, hm⟩, hfits.checks⟩,
            rfl, by simp⟩
  · exact ⟨h.extend (hl id), rfl, fun _ _ => rfl⟩

/-- What catching up leaves: an instance that fits, at the end of the stream as it was read unless a
call was refused. -/
structure CaughtUp (u : Setup) (id : String) (t : Trace) (r : Except Fault Unit × Instance)
    (t' : Trace) (l' : Ledger) : Prop where
  fits : r.2.Fits u (l'.events id)
  added : t'.added = t.added
  refused : ∀ f, r.1 = .error f → t'.refused = true
  last : r.1 = .ok () → r.2.At u (l'.events id) (l'.events id).length ∧ t'.seen = l'.events id

theorem secures_replayTail (h : i.Fits u (l.events id)) :
    (i.replayTail u.types u.settings.checkConstraints id).Secures u id (CaughtUp u id t) t l := by
  unfold replayTail
  refine Program.secures_bind (Program.secures_read fun l' hl hf => ⟨?_, fun f => ?_⟩)
  · have hfits := h.extend (hl id)
    obtain ⟨k, hk⟩ := hfits.place
    have hstart : (i.version + 1).toNat = k := by
      rw [hk.version]
      omega
    rw [hstart]
    cases htail : (l'.events id).drop k with
    | nil =>
        have hend : k = (l'.events id).length :=
          Nat.le_antisymm hk.within (List.drop_eq_nil_iff.mp htail)
        exact ⟨hfits, rfl, by simp, fun _ => ⟨hend ▸ hk, rfl⟩⟩
    | cons e rest =>
        have hreplayed := (hk.withCheck false).replayAll rfl (hf.numbered id)
        rw [htail] at hreplayed
        have hend := hreplayed.withCheck u.settings.checkConstraints
        exact ⟨⟨⟨_, hend⟩, rfl⟩, rfl, by simp, fun _ => ⟨hend, rfl⟩⟩
  · exact ⟨h.extend (hl id), rfl, fun _ _ => rfl, by simp⟩

theorem secures_sync (h : i.Fits u (l.events id)) :
    (i.sync u.types u.settings.checkConstraints id).Secures u id (CaughtUp u id t) t l := by
  unfold sync
  refine Program.secures_bind ((secures_loadSaved h).imp ?_)
  rintro ⟨r, i'⟩ t' l' - ⟨hfits, hadded, hrefused⟩
  cases r with
  | error f => exact ⟨hfits, hadded, hrefused, by simp⟩
  | ok _ =>
      refine (secures_replayTail hfits).imp fun r t'' l'' _ h => ?_
      exact ⟨h.fits, h.added.trans hadded, h.refused, h.last⟩

end Instance

/-! ### Executing -/

/-- An engine of a setup whose instances fit. -/
structure Engine.Fits (e : Engine) (u : Setup) (l : Ledger) : Prop where
  schema : e.schema = u.schema
  types : e.types = u.types
  evaluator : e.evaluator = u.evaluator
  settings : e.settings = u.settings
  instances : ∀ p ∈ e.instances, p.2.Fits u (l.events p.1)

namespace Engine

variable {u : Setup} {id : String} {e : Engine} {i : Instance} {t : Trace} {l l' : Ledger}
  {action : String} {b : Bindings} {metadata : Option Metadata}

theorem Fits.extend (h : e.Fits u l) (hl : l.Extends l') : e.Fits u l' :=
  ⟨h.schema, h.types, h.evaluator, h.settings, fun p hp => (h.instances p hp).extend (hl p.1)⟩

theorem Fits.keep (h : e.Fits u l) (hi : i.Fits u (l.events id)) : (e.keep id i).Fits u l := by
  refine ⟨h.schema, h.types, h.evaluator, h.settings, fun p hp => ?_⟩
  rcases Dict.mem_insert hp with rfl | hp
  · exact hi
  · exact h.instances p hp

theorem Fits.forget (h : e.Fits u l) (id : String) : (e.forget id).Fits u l :=
  ⟨h.schema, h.types, h.evaluator, h.settings, fun p hp => h.instances p (Dict.mem_erase hp)⟩

theorem Fits.get? (h : e.Fits u l) (hi : e.instances.get? id = some i) :
    i.Fits u (l.events id) :=
  h.instances (id, i) (Dict.mem_of_get? hi)

theorem Fits.fresh (h : e.Fits u l) : e.fresh.Fits u (l.events id) := by
  unfold Engine.fresh
  rw [h.schema, h.evaluator, h.settings]
  exact Instance.fits_fresh u _

theorem secures_sync (h : e.Fits u l) (hi : i.Fits u (l.events id)) :
    (e.sync id i).Secures u id (Instance.CaughtUp u id t) t l := by
  unfold Engine.sync
  rw [h.types, h.settings]
  exact Instance.secures_sync hi

theorem secures_saveIfDue {k : Nat} (h : i.At u (l.events id) k) :
    (e.saveIfDue id i).Secures u id (fun _ t' _ => t'.added = t.added) t l := by
  unfold saveIfDue
  split
  · refine Program.secures_bind (Program.secures_newStamp fun stamp => ?_)
    refine Program.secures_bind (Program.secures_saveSnapshot rfl (fun l' hl => ⟨k, ?_⟩) ?_)
    · have htaken := h.extend (hl id)
      exact ⟨htaken.within, htaken.version, i.net.marking, rfl, htaken.marking⟩
    · intro r t' l' _ hadded _
      cases r <;> exact hadded
  · exact rfl

/-- What executing leaves: an instance that fits, and exactly the event that was recorded. -/
structure Executed (u : Setup) (id : String) (t : Trace) (r : Except Fault Event × Instance)
    (t' : Trace) (l' : Ledger) : Prop where
  fits : r.2.Fits u (l'.events id)
  failed : ∀ f, r.1 = .error f → t'.added = t.added
  recorded : ∀ ev, r.1 = .ok ev → t'.added = t.added ++ [ev.stored]

/-- The event of an executed action is recorded where the action was executed, or not at all. -/
theorem secures_record (h : e.Fits u l) (hi : i.At u (l.events id) (l.events id).length)
    (hchecks : i.net.checksConstraints = u.settings.checkConstraints) (hb : b.Regular) {net : Net}
    (hexec : i.net.executeWith action b = (.ok (), net)) :
    (e.record id action b metadata i.net.marking { i with net }).Secures u id (Executed u id t)
      t l := by
  have hnet := Net.executeWith_frame hexec
  unfold record
  refine Program.secures_bind (Program.secures_newStamp fun stamp => ?_)
  have hexecuted := hi.executed hb hexec
    (e := Batch.place id (i.version + 1) (e.eventOf stamp id action b metadata))
    (congrArg (·.eventType action) h.types) rfl
  obtain ⟨haccepts, hconsistent, hafter⟩ := hexecuted
  refine Program.secures_bind (Program.secures_append ?_ ?_ ?_)
  · intro l' hl hversion
    refine ⟨l.events id, [], hi.events_extend hl hversion _, haccepts, fun hc => ?_⟩
    exact hconsistent (hchecks.trans hc)
  · intro l' hl hversion
    have hlength : ((l.events id).length : Int) = i.version + 1 := by
      have := hi.version
      omega
    rw [hlength] at hafter
    have hplace := hi.events_extend hl hversion (e.eventOf stamp id action b metadata) ▸ hafter
    have hkept : Instance.Fits { i with net, version := i.version + 1 } u
        ((l'.extend id [e.eventOf stamp id action b metadata]).events id) := by
      refine ⟨⟨_, hplace⟩, ?_⟩
      rw [hnet]
      exact hchecks
    refine Program.secures_bind ((secures_saveIfDue hplace).imp ?_)
    intro _ t' l'' hl'' hadded
    exact ⟨hkept.extend (hl'' id), by simp, fun ev hev => by
      rw [hadded, ← Except.ok.inj hev]
      rfl⟩
  · intro l' f hl
    refine ⟨⟨⟨(l.events id).length, ?_⟩, ?_⟩, fun _ _ => rfl, by simp⟩
    · have hback := hi.extend (hl id)
      rw [hnet]
      exact ⟨hback.schema, hback.evaluator, hback.within, hback.version, hback.marking⟩
    · rw [hnet]
      exact hchecks

theorem secures_executeCaughtUp (h : e.Fits u l) (hi : i.At u (l.events id) (l.events id).length)
    (hchecks : i.net.checksConstraints = u.settings.checkConstraints) (hb : b.Regular) :
    (e.executeCaughtUp id action b metadata i).Secures u id (Executed u id t) t l := by
  unfold executeCaughtUp
  split
  · exact Program.secures_ofTraced ⟨⟨⟨_, hi⟩, hchecks⟩, fun _ _ => rfl, by simp [Fault.refuse]⟩
  · refine Program.secures_bind (Program.secures_ofTraced ?_)
    rcases hexec : i.net.executeWith action b with ⟨r, net⟩
    cases r with
    | error f =>
        rw [Net.executeWith_failed hexec]
        exact ⟨⟨⟨_, hi⟩, hchecks⟩, fun _ _ => rfl, by simp⟩
    | ok _ => exact secures_record h hi hchecks hb hexec

theorem secures_executeOn (h : e.Fits u l) (hi : i.Fits u (l.events id)) (hb : b.Regular) :
    (e.executeOn id action b metadata i).Secures u id (Executed u id t) t l := by
  unfold executeOn
  refine Program.secures_bind ((secures_sync h hi).imp ?_)
  rintro ⟨r, i'⟩ t' l' hl hsync
  cases r with
  | error f => exact ⟨hsync.fits, fun _ _ => hsync.added, by simp⟩
  | ok _ =>
      refine (secures_executeCaughtUp (h.extend hl) (hsync.last rfl).1 hsync.fits.checks hb).imp ?_
      intro r t'' l'' _ hr
      exact ⟨hr.fits, fun f hf => (hr.failed f hf).trans hsync.added,
        fun ev hev => hsync.added ▸ hr.recorded ev hev⟩

/-! ### Commands -/

/-- What a command leaves: an engine that fits, with the instances of all other aggregates as they
were. -/
structure Left (e : Engine) (u : Setup) (id : String) (e' : Engine) (l' : Ledger) : Prop where
  fits : e'.Fits u l'
  others : ∀ other, other ≠ id → e'.instances.get? other = e.instances.get? other

theorem left_same (h : e.Fits u l) : e.Left u id e l :=
  ⟨h, fun _ _ => rfl⟩

theorem left_keep (h : e.Fits u l) (hi : i.Fits u (l.events id)) : e.Left u id (e.keep id i) l :=
  ⟨h.keep hi, fun _ hother => Dict.get?_insert_of_ne _ _ hother.symm⟩

theorem left_forget (h : e.Fits u l) : e.Left u id (e.forget id) l :=
  ⟨h.forget id, fun _ hother => Dict.get?_erase_of_ne _ hother.symm⟩

theorem left_settle (h : e.Fits u l) (hi : i.Fits u (l.events id)) (r : Except Fault Event) :
    e.Left u id (e.settle id r i) l := by
  unfold settle
  cases r with
  | ok ev => exact left_keep h hi
  | error f =>
      simp only
      split
      · exact left_forget h
      · exact left_keep h hi

theorem Left.trans {e' e'' : Engine} (h : e.Left u id e' l) (h' : e'.Left u id e'' l') :
    e.Left u id e'' l' :=
  ⟨h'.fits, fun other hother => (h'.others other hother).trans (h.others other hother)⟩

/-- What executing a command leaves: exactly the event that is answered. -/
structure Answered (e : Engine) (u : Setup) (id : String) (t : Trace)
    (r : Except Fault Event × Engine) (t' : Trace) (l' : Ledger) : Prop where
  left : e.Left u id r.2 l'
  failed : ∀ f, r.1 = .error f → t'.added = t.added
  recorded : ∀ ev, r.1 = .ok ev → t'.added = t.added ++ [ev.stored]

theorem secures_execute (h : e.Fits u l) (hb : b.Regular) :
    (e.execute id action b metadata).Secures u id (e.Answered u id t) t l := by
  unfold execute
  split
  · exact ⟨left_same h, fun _ _ => rfl, by simp⟩
  · have hi : ((e.instances.get? id).getD e.fresh).Fits u (l.events id) := by
      cases hget : e.instances.get? id with
      | none => exact h.fresh
      | some i => exact h.get? hget
    refine Program.secures_bind ((secures_executeOn h hi hb).imp ?_)
    rintro ⟨r, i'⟩ t' l' hl hr
    exact ⟨left_settle (h.extend hl) hr.fits r, hr.failed, hr.recorded⟩

theorem secures_executeUpTo (tries : Nat) (h : e.Fits u l) (hb : b.Regular) :
    (executeUpTo id action b tries e).Secures u id (e.Answered u id t) t l := by
  induction tries generalizing e t l with
  | zero =>
      unfold executeUpTo
      refine Program.secures_bind ((secures_execute h hb).imp ?_)
      rintro ⟨r, e'⟩ t' l' - hr
      cases r <;> exact hr
  | succ tries ih =>
      unfold executeUpTo
      refine Program.secures_bind ((secures_execute h hb).imp ?_)
      rintro ⟨r, e'⟩ t' l' - hr
      cases r with
      | ok ev => exact hr
      | error f =>
          simp only
          split
          · -- nothing was added so far, so what the next try adds is all that is added
            have hnone := hr.failed f rfl
            refine Program.secures_bind (Program.secures_emit ((ih hr.left.fits).imp ?_))
            intro r'' t'' l'' _ hr''
            exact ⟨hr.left.trans hr''.left, fun f' hf => (hr''.failed f' hf).trans hnone,
              fun ev hev => hnone ▸ hr''.recorded ev hev⟩
          · exact hr

/-- What looking at an aggregate leaves.  An answer that was not read off a kept instance is that of
the end of the stream as it was read. -/
structure Looked {α : Type} (e : Engine) (u : Setup) (id : String) (look : Instance → α) (t : Trace)
    (r : Except Fault α × Engine) (t' : Trace) (l' : Ledger) : Prop where
  left : e.Left u id r.2 l'
  added : t'.added = t.added
  refused : ∀ f, r.1 = .error f → t'.refused = true
  loaded : e.instances.get? id = none → ∀ a, r.1 = .ok a →
    ∃ i : Instance, a = look i ∧ i.At u (l'.events id) (l'.events id).length ∧ t'.seen = l'.events id

theorem secures_inspectWith {α : Type} (h : e.Fits u l) (look : Instance → α) :
    (e.inspectWith id look).Secures u id (e.Looked u id look t) t l := by
  unfold inspectWith
  cases hget : e.instances.get? id with
  | some i =>
      have hi := h.get? hget
      simp only
      split
      · exact ⟨left_same h, rfl, by simp, by simp [hget]⟩
      · refine Program.secures_bind ((secures_sync h hi).imp ?_)
        rintro ⟨r, i'⟩ t' l' hl hsync
        have hleft := left_keep (h.extend hl) hsync.fits
        cases r with
        | error f => exact ⟨hleft, hsync.added, fun _ _ => hsync.refused f rfl, by simp⟩
        | ok _ => exact ⟨hleft, hsync.added, by simp, by simp [hget]⟩
  | none =>
      refine Program.secures_bind ((secures_sync h h.fresh).imp ?_)
      rintro ⟨r, i'⟩ t' l' hl hsync
      cases r with
      | error f =>
          exact ⟨left_same (h.extend hl), hsync.added, fun _ _ => hsync.refused f rfl, by simp⟩
      | ok _ =>
          have hloaded : ∀ a, (Except.ok (look i') : Except Fault α) = .ok a →
              ∃ i : Instance, a = look i ∧ i.At u (l'.events id) (l'.events id).length ∧
                t'.seen = l'.events id :=
            fun a ha => ⟨i', (Except.ok.inj ha).symm, (hsync.last rfl).1, (hsync.last rfl).2⟩
          simp only
          split
          · exact ⟨left_same (h.extend hl), hsync.added, by simp, fun _ => hloaded⟩
          · exact ⟨left_keep (h.extend hl) hsync.fits, hsync.added, by simp, fun _ => hloaded⟩

/-- What loading a state leaves: the state at the end of the stream as it was read, unless a call was
refused. -/
structure Loaded (e : Engine) (u : Setup) (id : String) (t : Trace)
    (r : Except Fault AggregateState × Engine) (t' : Trace) (l' : Ledger) : Prop where
  left : e.Left u id r.2 l'
  added : t'.added = t.added
  refused : ∀ f, r.1 = .error f → t'.refused = true
  loaded : ∀ st, r.1 = .ok st →
    ∃ i : Instance, st = view id i ∧ i.At u (l'.events id) (l'.events id).length ∧
      t'.seen = l'.events id

theorem secures_loadState (h : e.Fits u l) :
    (e.loadState id).Secures u id (e.Loaded u id t) t l := by
  unfold loadState
  cases hget : e.instances.get? id with
  | none =>
      refine (secures_inspectWith h (view id)).imp fun r t' l' _ hr => ?_
      exact ⟨hr.left, hr.added, hr.refused, hr.loaded hget⟩
  | some i =>
      refine Program.secures_bind ((secures_sync h (h.get? hget)).imp ?_)
      rintro ⟨r, i'⟩ t' l' hl hsync
      have hleft := left_keep (h.extend hl) hsync.fits
      cases r with
      | error f => exact ⟨hleft, hsync.added, fun _ _ => hsync.refused f rfl, by simp⟩
      | ok _ =>
          exact ⟨hleft, hsync.added, by simp, fun st hst =>
            ⟨i', (Except.ok.inj hst).symm, (hsync.last rfl).1, (hsync.last rfl).2⟩⟩

end Engine

/-! ### Every command -/

/-- An answer tells what its command has added: the event that is answered, or else nothing. -/
def Outcome.Honest (o : Outcome) (t : Trace) : Prop :=
  match o with
  | .event (.ok e) => t.added = [e.stored]
  | _ => t.added = []

/-- The answer to a loading is the state after all events that were read, or that a call was
refused. -/
def Outcome.Current (o : Outcome) (u : Setup) (c : Command) (t : Trace)
    (events : String → List Event) : Prop :=
  match c with
  | .loadState id =>
    (∃ st, o = .state (.ok st) ∧ st.aggregate = id ∧ st.version = (t.seen.length : Int) - 1 ∧
        st.marking.plain = (u.fold t.seen).plain ∧ t.seen <+: events id) ∨
      ∃ f, o = .state (.error f) ∧ t.refused = true
  | _ => True

/-- What was current stays so, since it is about the events that were read. -/
theorem Outcome.Current.extend {o : Outcome} {u : Setup} {c : Command} {t : Trace} {l l' : Ledger}
    (h : o.Current u c t l.events) (hl : l.Extends l') : o.Current u c t l'.events := by
  unfold Outcome.Current at h ⊢
  cases c with
  | loadState id =>
      refine h.imp_left fun ⟨st, ho, hid, hversion, hmarking, hseen⟩ => ?_
      exact ⟨st, ho, hid, hversion, hmarking, hseen.trans (hl id)⟩
  | _ => exact trivial

/-- What every command leaves. -/
structure Command.Completed (c : Command) (e : Engine) (u : Setup) (r : Outcome × Engine) (t : Trace)
    (l : Ledger) : Prop where
  left : e.Left u c.aggregate r.2 l
  honest : r.1.Honest t
  current : r.1.Current u c t l.events

namespace Command

variable {u : Setup} {e : Engine} {c : Command} {l l' : Ledger} {t : Trace}

theorem Completed.extend {r : Outcome × Engine} (hl : l.Extends l')
    (h : c.Completed e u r t l) : c.Completed e u r t l' :=
  ⟨⟨h.left.fits.extend hl, h.left.others⟩, h.honest, h.current.extend hl⟩

private theorem completed_of_answered {r : Except Fault Event × Engine}
    (hloading : ∀ id, c ≠ .loadState id) (h : e.Answered u c.aggregate .start r t l) :
    c.Completed e u (.event r.1, r.2) t l := by
  refine ⟨h.left, ?_, ?_⟩
  · obtain ⟨r, e'⟩ := r
    cases r with
    | error f => exact h.failed f rfl
    | ok ev => exact h.recorded ev rfl
  · unfold Outcome.Current
    cases c with
    | loadState id => exact absurd rfl (hloading id)
    | _ => exact trivial

/-- **Every command can be relied on**: its calls are permitted whatever others do in between, and it
leaves an engine that fits, an honest answer and a current state. -/
theorem secures_program (h : e.Fits u l) (hb : c.bindings.Regular) :
    (c.program e).Secures u c.aggregate (c.Completed e u) .start l := by
  cases c with
  | execute id action b metadata =>
      refine Program.secures_bind ((Engine.secures_execute h hb).imp ?_)
      exact fun r t l _ hr => completed_of_answered (by simp) hr
  | executeWithRetry id action b =>
      refine Program.secures_bind ((Engine.secures_executeUpTo _ h hb).imp ?_)
      exact fun r t l _ hr => completed_of_answered (by simp) hr
  | loadState id =>
      refine Program.secures_bind ((Engine.secures_loadState h).imp ?_)
      rintro ⟨r, e'⟩ t l - hr
      refine ⟨hr.left, hr.added, ?_⟩
      cases r with
      | error f => exact Or.inr ⟨f, rfl, hr.refused f rfl⟩
      | ok st =>
          obtain ⟨i, hview, hi, hseen⟩ := hr.loaded st rfl
          have hmarking := hi.marking
          rw [List.take_length] at hmarking
          refine Or.inl ⟨st, rfl, hview ▸ rfl, ?_, ?_, hseen ▸ List.prefix_refl _⟩
          · rw [hview, hseen]
            exact hi.version
          · rw [hview, hseen]
            exact hmarking
  | state id =>
      refine Program.secures_bind ((Engine.secures_inspectWith h _).imp ?_)
      exact fun r t l _ hr => ⟨hr.left, hr.added, trivial⟩
  | enabledActions id =>
      refine Program.secures_bind ((Engine.secures_inspectWith h _).imp ?_)
      exact fun r t l _ hr => ⟨hr.left, hr.added, trivial⟩
  | evict id => exact ⟨Engine.left_forget h, rfl, trivial⟩

end Command

end EventNet
