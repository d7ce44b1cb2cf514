import EventNet.Proofs.Engine.Assurance
import EventNet.Proofs.Store.Listing

/-!
The versions that commands have to do with are those of events.

An instance is made before it is known whether its stream has events, and it is handed on through every
way in which catching up, executing and appending can fail.  Its version is that of an event of the
stream, or that of no stream at all; and the latter are not kept.  Nothing is assumed of what the store
holds: events may be unreadable, and others may append between any two calls.  What carries the proofs
is that the store lists a grounded ledger, in which saved states have versions of events, so that every
version that is answered is one that the stream has.
-/

namespace EventNet

/-! ### Versions of events -/

namespace Ledger

variable {l l' : Ledger} {id : String} {version : Int}

/-- A version that an event of a stream has, if the events are numbered. -/
def Has (l : Ledger) (id : String) (version : Int) : Prop :=
  0 ≤ version ∧ version < (l.events id).length

theorem Has.ne_nil (h : l.Has id version) : l.events id ≠ [] := by
  intro hnil
  obtain ⟨hpos, hlt⟩ := h
  rw [hnil, List.length_nil] at hlt
  omega

theorem Has.ne_noStream (h : l.Has id version) : version ≠ noStream := by
  rintro rfl
  exact absurd h.1 (by decide)

theorem Has.extends (h : l.Has id version) (hl : l.Extends l') : l'.Has id version :=
  ⟨h.1, Int.lt_of_lt_of_le h.2 (Int.ofNat_le.mpr (hl id).length_le)⟩

theorem Numbered.has (h : l.Numbered) {e : Event} (he : e ∈ l.events id) : l.Has id e.version := by
  obtain ⟨i, hi⟩ := List.mem_iff_getElem?.mp he
  have hlt := (List.getElem?_eq_some_iff.mp hi).1
  rw [Has, h id i e hi]
  omega

/-- An event that is appended alone has the version that its stream has then. -/
theorem has_extend_single (l : Ledger) (stream : String) (e : Event) :
    (l.extend stream [e]).Has stream (l.version stream + 1) := by
  have hversion := l.version_extend stream [e]
  have hnonneg := l.noStream_le_version stream
  rw [(l.extend stream [e]).version_eq, List.length_singleton] at hversion
  unfold noStream at hnonneg
  exact ⟨by omega, by omega⟩

/-- A stream that is empty was empty before. -/
theorem Extends.eq_nil (h : l.Extends l') (hnil : l'.events id = []) : l.events id = [] :=
  List.prefix_nil.mp (hnil ▸ h id)

/-- The events of every stream have the versions 0, 1, 2 and so on, and a saved state has the version
of one of them. -/
structure Grounded (l : Ledger) : Prop where
  numbered : l.Numbered
  saved : ∀ id x, l.snapshots.get? id = some x → l.Has id x.version

theorem grounded_empty : Grounded empty :=
  ⟨numbered_empty, fun id x hx => by simp [empty] at hx⟩

theorem Grounded.extend (h : l.Grounded) (stream : String) (batch : List Event) :
    (l.extend stream batch).Grounded where
  numbered := h.numbered.extend stream batch
  saved id x hx := (h.saved id x hx).extends (l.extends_extend stream batch)

theorem Grounded.saveSnapshot (h : l.Grounded) {x : StateSnapshot} (hx : l.Has x.stream x.version) :
    Grounded { l with snapshots := l.snapshots.insert x.stream x } where
  numbered := h.numbered
  saved id y hy := by
    by_cases hid : x.stream = id
    · rw [hid, Dict.get?_insert_self] at hy
      obtain rfl := Option.some.inj hy
      exact hid ▸ hx
    · rw [Dict.get?_insert_of_ne _ _ hid] at hy
      exact h.saved id y hy

end Ledger

/-! ### Answers -/

/-- The answers that a store with a ledger may give to a call, as far as versions go, and its ledger
afterwards. -/
def Ledger.Admits (l : Ledger) : (c : StoreCall) → c.Answer → Ledger → Prop
  | .loadSnapshot stream, r, l' =>
    l' = l ∧ ∀ x, r = .ok (some x) → ∃ y, l.snapshots.get? stream = some y ∧ y.version = x.version
  | .read stream _, r, l' =>
    l' = l ∧ ∀ events, r = .ok events →
      ∀ e ∈ events, ∃ x ∈ l.events stream, x.version = e.version
  | .append stream expected batch, r, l' =>
    l.version stream = expected ∧ r = .ok (expected + batch.length) ∧ l' = l.extend stream batch ∨
      l' = l ∧ ∃ f, r = .error f
  | .saveSnapshot x, _, l' =>
    l' = { l with snapshots := l.snapshots.insert x.stream x } ∨ l' = l

/-- A state that is saved has the version of an event of its stream. -/
def StoreCall.Grounded (l : Ledger) : StoreCall → Prop
  | .saveSnapshot x => l.Has x.stream x.version
  | _ => True

namespace Ledger

variable {l l' : Ledger} {c : StoreCall} {r : c.Answer}

theorem Admits.extends (h : l.Admits c r l') : l.Extends l' := by
  cases c with
  | loadSnapshot stream => exact h.1 ▸ Extends.refl l
  | read stream start => exact h.1 ▸ Extends.refl l
  | append stream expected batch =>
      rcases h with ⟨-, -, rfl⟩ | ⟨rfl, -⟩
      · exact l.extends_extend stream batch
      · exact Extends.refl _
  | saveSnapshot x =>
      rcases h with rfl | rfl
      · exact fun id => List.prefix_refl _
      · exact Extends.refl _

theorem Grounded.admits (h : l.Grounded) (hc : c.Grounded l) (ha : l.Admits c r l') :
    l'.Grounded := by
  cases c with
  | loadSnapshot stream => exact ha.1 ▸ h
  | read stream start => exact ha.1 ▸ h
  | append stream expected batch =>
      rcases ha with ⟨-, -, rfl⟩ | ⟨rfl, -⟩
      · exact h.extend stream batch
      · exact h
  | saveSnapshot x =>
      rcases ha with rfl | rfl
      · exact h.saveSnapshot hc
      · exact h

/-- Every call may be refused. -/
theorem admits_refusal (l : Ledger) (c : StoreCall) (f : Fault) : l.Admits c (c.refusal f) l := by
  cases c with
  | loadSnapshot stream => exact ⟨rfl, fun x hx => nomatch hx⟩
  | read stream start => exact ⟨rfl, fun events hevents => nomatch hevents⟩
  | append stream expected batch => exact Or.inr ⟨rfl, f, rfl⟩
  | saveSnapshot x => exact Or.inr rfl

end Ledger

/-- A store answers a call as the ledger that it lists admits. -/
theorem Store.Lists.answer {s : Store} {l : Ledger} (h : s.Lists l) (c : StoreCall) :
    ∃ l', l.Admits c (s.answer c).1 l' ∧ (s.answer c).2.Lists l' := by
  cases c with
  | loadSnapshot stream =>
      obtain ⟨hr, hl⟩ := h.loadSnapshot stream
      exact ⟨l, ⟨rfl, hr⟩, hl⟩
  | read stream start =>
      obtain ⟨hr, hl⟩ := h.read stream start
      exact ⟨l, ⟨rfl, hr⟩, hl⟩
  | append stream expected batch =>
      rcases h.append stream expected batch with ⟨hversion, hr, hl⟩ | ⟨hr, hl⟩
      · exact ⟨_, Or.inl ⟨hversion, hr, rfl⟩, hl⟩
      · exact ⟨l, Or.inr ⟨rfl, hr⟩, hl⟩
  | saveSnapshot x =>
      rcases h.saveSnapshot x with hl | hl
      · exact ⟨_, Or.inl rfl, hl⟩
      · exact ⟨l, Or.inr rfl, hl⟩

/-! ### Programs -/

namespace Program

variable {α β : Type}

/-- Whatever others append between the calls of a program and whatever the store answers, only states of
events that exist are saved, and the result has a property. -/
def Grounded (Q : α → Ledger → Prop) : Program α → Ledger → Prop
  | .done a, l => Q a l
  | .report _ next, l => Grounded Q next l
  | .stamp next, l => ∀ s, Grounded Q (next s) l
  | .call c next, l =>
    ∀ l₁, l.Extends l₁ → l₁.Grounded → c.Grounded l₁ ∧
      ∀ (r : c.Answer) (l₂ : Ledger), l₁.Admits c r l₂ → Grounded Q (next r) l₂

variable {P Q : α → Ledger → Prop} {p : Program α} {l l' : Ledger} {id : String}

theorem grounded_bind {f : α → Program β} {R : β → Ledger → Prop}
    (h : p.Grounded (fun a l => (f a).Grounded R l) l) : (p >>= f).Grounded R l := by
  show (p.andThen f).Grounded R l
  induction p generalizing l with
  | done a => exact h
  | report _ next ih => exact ih h
  | stamp next ih => exact fun s => ih s (h s)
  | call c next ih =>
      intro l₁ hl hg
      obtain ⟨hc, hnext⟩ := h l₁ hl hg
      exact ⟨hc, fun r l₂ ha => ih r (hnext r l₂ ha)⟩

theorem Grounded.imp (h : p.Grounded P l) (hPQ : ∀ a l', l.Extends l' → P a l' → Q a l') :
    p.Grounded Q l := by
  induction p generalizing l with
  | done a => exact hPQ a l (Ledger.Extends.refl l) h
  | report _ next ih => exact ih h hPQ
  | stamp next ih => exact fun s => ih s (h s) hPQ
  | call c next ih =>
      intro l₁ hl hg
      obtain ⟨hc, hnext⟩ := h l₁ hl hg
      refine ⟨hc, fun r l₂ ha => ih r (hnext r l₂ ha) fun a l' hl' hP => ?_⟩
      exact hPQ a l' ((hl.trans ha.extends).trans hl') hP

theorem Grounded.extend (hQ : ∀ a l l', l.Extends l' → Q a l → Q a l') (h : p.Grounded Q l)
    (hl : l.Extends l') : p.Grounded Q l' := by
  induction p generalizing l with
  | done a => exact hQ a l l' hl h
  | report _ next ih => exact ih h hl
  | stamp next ih => exact fun s => ih s (h s) hl
  | call c next ih => exact fun l₁ hl₁ hg => h l₁ (hl.trans hl₁) hg

/-! #### Single calls -/

theorem grounded_loadSnapshot {Q : Except Fault (Option StateSnapshot) → Ledger → Prop}
    (h : ∀ l' r, l.Extends l' → (∀ x, r = .ok (some x) → l'.Has id x.version) → Q r l') :
    (loadSnapshot id).Grounded Q l := by
  intro l₁ hl hg
  refine ⟨trivial, fun r l₂ ha => ?_⟩
  obtain ⟨rfl, hr⟩ := ha
  refine h l₂ r hl fun x hx => ?_
  obtain ⟨y, hy, hversion⟩ := hr x hx
  exact hversion ▸ hg.saved id y hy

theorem grounded_read {start : Int} {Q : Except Fault (List Event) → Ledger → Prop}
    (h : ∀ l' r, l.Extends l' →
      (∀ events, r = .ok events → ∀ e ∈ events, l'.Has id e.version) → Q r l') :
    (read id start).Grounded Q l := by
  intro l₁ hl hg
  refine ⟨trivial, fun r l₂ ha => ?_⟩
  obtain ⟨rfl, hr⟩ := ha
  refine h l₂ r hl fun events hevents e he => ?_
  obtain ⟨x, hx, hversion⟩ := hr events hevents e he
  exact hversion ▸ hg.numbered.has hx

theorem grounded_append {expected : Int} {e : Event} {Q : Except Fault Int → Ledger → Prop}
    (hok : ∀ l', l'.Has id (expected + 1) → Q (.ok (expected + 1)) l')
    (herror : ∀ l' f, l.Extends l' → Q (.error f) l') :
    (append id expected [e]).Grounded Q l := by
  intro l₁ hl hg
  refine ⟨trivial, fun r l₂ ha => ?_⟩
  rcases ha with ⟨rfl, rfl, rfl⟩ | ⟨rfl, f, rfl⟩
  · exact hok _ (l₁.has_extend_single id e)
  · exact herror l₂ f hl

theorem grounded_saveSnapshot {x : StateSnapshot} {Q : Except Fault Unit → Ledger → Prop}
    (hx : l.Has x.stream x.version) (h : ∀ r l', l.Extends l' → Q r l') :
    (saveSnapshot x).Grounded Q l := by
  intro l₁ hl hg
  exact ⟨hx.extends hl, fun r l₂ ha => h r l₂ (hl.trans ha.extends)⟩

end Program

/-! ### Instances -/

namespace Instance

variable {id : String} {i : Instance} {l l' : Ledger} {types : EventTypes} {checks : Bool}

/-- The version of an instance is that of an event of its stream, or the instance has seen none. -/
def Placed (i : Instance) (id : String) (l : Ledger) : Prop :=
  i.version = noStream ∨ l.Has id i.version

theorem Placed.extends (h : i.Placed id l) (hl : l.Extends l') : i.Placed id l' :=
  h.imp_right fun hhas => hhas.extends hl

/-- What catching up leaves of an instance: it forgets no event that it has seen, and where there are
no events, it is as it was. -/
structure Followed (i : Instance) (id : String) (r : Except Fault Unit × Instance) (l : Ledger) :
    Prop where
  placed : r.2.Placed id l
  seen : i.version ≠ noStream → r.2.version ≠ noStream
  same : l.events id = [] → r.2.net = i.net ∧ r.2.version = i.version

/-- An instance of the same version with the same net. -/
private theorem followed_same {r : Except Fault Unit × Instance} (h : i.Placed id l)
    (hnet : r.2.net = i.net) (hversion : r.2.version = i.version) : i.Followed id r l := by
  refine ⟨?_, fun hne => hversion ▸ hne, fun _ => ⟨hnet, hversion⟩⟩
  unfold Placed
  rwa [hversion]

/-- An instance at the version of an event. -/
private theorem followed_has {r : Except Fault Unit × Instance} (h : l.Has id r.2.version) :
    i.Followed id r l :=
  ⟨Or.inr h, fun _ => h.ne_noStream, fun hnil => absurd hnil h.ne_nil⟩

/-- Replaying events leads to the version of one of them. -/
theorem version_replayAll (types : EventTypes) (i : Instance) {events : List Event}
    (h : events ≠ []) : ∃ e ∈ events, (i.replayAll types events).value.version = e.version := by
  induction events generalizing i with
  | nil => exact absurd rfl h
  | cons e rest ih =>
      cases rest with
      | nil => exact ⟨e, List.mem_cons_self, rfl⟩
      | cons e' rest =>
          obtain ⟨x, hx, hversion⟩ := ih (i.replay types e).value (List.cons_ne_nil _ _)
          exact ⟨x, List.mem_cons_of_mem _ hx, hversion⟩

theorem grounded_loadSaved (h : i.Placed id l) :
    (i.loadSaved id).Grounded (i.Followed id) l := by
  unfold loadSaved
  split
  · exact followed_same h rfl rfl
  refine Program.grounded_bind (Program.grounded_loadSnapshot fun l' r hl hr => ?_)
  match r, hr with
  | .error f, _ => exact followed_same (h.extends hl) rfl rfl
  | .ok none, _ => exact followed_same (h.extends hl) rfl rfl
  | .ok (some saved), hr =>
      dsimp only
      split
      · exact followed_has (hr saved rfl)
      · exact followed_same (h.extends hl) rfl rfl

theorem grounded_replayTail (h : i.Placed id l) :
    (i.replayTail types checks id).Grounded (i.Followed id) l := by
  unfold replayTail
  refine Program.grounded_bind (Program.grounded_read fun l' r hl hr => ?_)
  match r, hr with
  | .error f, _ => exact followed_same (h.extends hl) rfl rfl
  | .ok [], _ => exact followed_same (h.extends hl) rfl rfl
  | .ok (e :: rest), hr =>
      obtain ⟨x, hx, hversion⟩ :=
        version_replayAll types (i.withCheck false) (List.cons_ne_nil e rest)
      have hhas := hr _ rfl x hx
      rw [← hversion] at hhas
      exact followed_has hhas

theorem grounded_sync (h : i.Placed id l) :
    (i.sync types checks id).Grounded (i.Followed id) l := by
  unfold sync
  refine Program.grounded_bind ((grounded_loadSaved h).imp ?_)
  rintro ⟨r, i'⟩ l' - hloaded
  cases r with
  | error f => exact hloaded
  | ok _ =>
      refine (grounded_replayTail hloaded.placed).imp fun r l'' hl htail => ?_
      refine ⟨htail.placed, fun hne => htail.seen (hloaded.seen hne), fun hnil => ?_⟩
      obtain ⟨hnet, hversion⟩ := htail.same hnil
      obtain ⟨hnet', hversion'⟩ := hloaded.same (hl.eq_nil hnil)
      exact ⟨hnet.trans hnet', hversion.trans hversion'⟩

end Instance

/-! ### Engines -/

/-- An engine whose instances have versions of events of their streams. -/
def Engine.Grounded (e : Engine) (l : Ledger) : Prop :=
  ∀ p ∈ e.instances, l.Has p.1 p.2.version

namespace Engine

variable {id action : String} {b : Bindings} {metadata : Option Metadata} {e : Engine}
  {i : Instance} {l l' : Ledger}

theorem Grounded.extends (h : e.Grounded l) (hl : l.Extends l') : e.Grounded l' :=
  fun p hp => (h p hp).extends hl

theorem Grounded.keep (h : e.Grounded l) (hi : l.Has id i.version) : (e.keep id i).Grounded l := by
  intro p hp
  rcases Dict.mem_insert hp with rfl | hp
  · exact hi
  · exact h p hp

theorem Grounded.forget (h : e.Grounded l) (id : String) : (e.forget id).Grounded l :=
  fun p hp => h p (Dict.mem_erase hp)

theorem Grounded.get? (h : e.Grounded l) (hi : e.instances.get? id = some i) :
    l.Has id i.version :=
  h (id, i) (Dict.mem_of_get? hi)

/-- Nothing is kept of an aggregate without events. -/
theorem Grounded.get?_eq_none (h : e.Grounded l) (hnil : l.events id = []) :
    e.instances.get? id = none := by
  cases hi : e.instances.get? id with
  | none => rfl
  | some i => exact absurd hnil (h.get? hi).ne_nil

/-- A kept instance that is caught up has seen events, as before. -/
theorem Grounded.keepFollowed (h : e.Grounded l) (hl : l.Extends l')
    (hget : e.instances.get? id = some i) {r : Except Fault Unit × Instance}
    (hr : i.Followed id r l') : (e.keep id r.2).Grounded l' :=
  (h.extends hl).keep (hr.placed.resolve_left (hr.seen (h.get? hget).ne_noStream))

/-! #### Executing -/

/-- What executing leaves of an instance: if an event was appended, the version of an event. -/
structure Done (id : String) (r : Except Fault Event × Instance) (l : Ledger) : Prop where
  placed : r.2.Placed id l
  appended : ∀ ev, r.1 = .ok ev → l.Has id r.2.version

/-- A command that fails does not keep an instance that has seen no events. -/
theorem Grounded.settle (h : e.Grounded l) {r : Except Fault Event × Instance} (hr : Done id r l) :
    (e.settle id r.1 r.2).Grounded l := by
  obtain ⟨r, i⟩ := r
  unfold Engine.settle
  cases r with
  | ok ev => exact h.keep (hr.appended ev rfl)
  | error f =>
      dsimp only
      split
      · exact h.forget id
      · rename_i hne
        exact h.keep (hr.placed.resolve_left hne)

theorem grounded_saveIfDue (h : l.Has id i.version) :
    (e.saveIfDue id i).Grounded (fun _ l' => l.Extends l') l := by
  unfold saveIfDue
  split
  · refine Program.grounded_bind fun stamp => ?_
    refine Program.grounded_bind (Program.grounded_saveSnapshot h fun r l' hl => ?_)
    cases r <;> exact hl
  · exact Ledger.Extends.refl l

theorem grounded_record {before : Marking} (h : i.Placed id l) :
    (e.record id action b metadata before i).Grounded (Done id) l := by
  unfold record
  refine Program.grounded_bind fun stamp => ?_
  refine Program.grounded_bind (Program.grounded_append (fun l' hhas => ?_) fun l' f hl => ?_)
  · refine Program.grounded_bind ((grounded_saveIfDue hhas).imp fun _ l'' hl'' _ => ?_)
    exact ⟨Or.inr (hhas.extends hl''), fun _ _ => hhas.extends hl''⟩
  · exact ⟨h.extends hl, fun ev hev => nomatch hev⟩

theorem grounded_executeCaughtUp (h : i.Placed id l) :
    (e.executeCaughtUp id action b metadata i).Grounded (Done id) l := by
  unfold executeCaughtUp
  split
  · exact ⟨h, fun ev hev => nomatch hev⟩
  · refine Program.grounded_bind ?_
    rcases i.net.executeWith action b with ⟨r, net⟩
    cases r with
    | error f => exact ⟨h, fun ev hev => nomatch hev⟩
    | ok _ => exact grounded_record h

theorem grounded_executeOn (h : i.Placed id l) :
    (e.executeOn id action b metadata i).Grounded (Done id) l := by
  unfold executeOn
  refine Program.grounded_bind ((Instance.grounded_sync h).imp ?_)
  rintro ⟨r, i'⟩ l' - hr
  cases r with
  | error f => exact ⟨hr.placed, fun ev hev => nomatch hev⟩
  | ok _ => exact grounded_executeCaughtUp hr.placed

theorem grounded_execute (h : e.Grounded l) :
    (e.execute id action b metadata).Grounded (fun r l' => r.2.Grounded l') l := by
  unfold execute
  split
  · exact h
  · have hi : ((e.instances.get? id).getD e.fresh).Placed id l := by
      cases hget : e.instances.get? id with
      | none => exact Or.inl rfl
      | some i => exact Or.inr (h.get? hget)
    refine Program.grounded_bind ((grounded_executeOn hi).imp ?_)
    exact fun r l' hl hr => (h.extends hl).settle hr

theorem grounded_executeUpTo (tries : Nat) (h : e.Grounded l) :
    (executeUpTo id action b tries e).Grounded (fun r l' => r.2.Grounded l') l := by
  induction tries generalizing e l with
  | zero =>
      unfold executeUpTo
      refine Program.grounded_bind ((grounded_execute h).imp ?_)
      rintro ⟨r, e'⟩ l' - hr
      cases r <;> exact hr
  | succ tries ih =>
      unfold executeUpTo
      refine Program.grounded_bind ((grounded_execute h).imp ?_)
      rintro ⟨r, e'⟩ l' - hr
      cases r with
      | ok ev => exact hr
      | error f =>
          dsimp only
          split
          · exact ih hr
          · exact hr

/-! #### Looking -/

/-- What looking at an aggregate leaves; one without events is seen at the start of the schema. -/
structure Seen {α : Type} (e : Engine) (id : String) (look : Instance → α)
    (r : Except Fault α × Engine) (l : Ledger) : Prop where
  grounded : r.2.Grounded l
  initial : l.events id = [] → ∀ a, r.1 = .ok a →
    ∃ i, a = look i ∧ i.version = noStream ∧ i.net.marking = .initial e.schema

variable {α : Type} {look : Instance → α}

/-- Nothing is claimed of what is seen where there are events. -/
private theorem seen_of_ne_nil {r : Except Fault α × Engine} (h : r.2.Grounded l)
    (hne : l.events id ≠ []) : e.Seen id look r l :=
  ⟨h, fun hnil => absurd hnil hne⟩

/-- Catching up a kept instance. -/
private theorem grounded_catchUp (h : e.Grounded l) (hget : e.instances.get? id = some i) :
    (e.sync id i).Grounded (fun r l' => (e.keep id r.2).Grounded l' ∧ l'.events id ≠ []) l := by
  have hhas := h.get? hget
  refine (Instance.grounded_sync (Or.inr hhas)).imp fun r l' hl hr => ?_
  exact ⟨h.keepFollowed hl hget hr, (hhas.extends hl).ne_nil⟩

theorem grounded_inspectWith (h : e.Grounded l) (look : Instance → α) :
    (e.inspectWith id look).Grounded (e.Seen id look) l := by
  unfold inspectWith
  cases hget : e.instances.get? id with
  | some i =>
      dsimp only
      split
      · exact seen_of_ne_nil h (h.get? hget).ne_nil
      · refine Program.grounded_bind ((grounded_catchUp h hget).imp ?_)
        rintro ⟨r, i'⟩ l' - ⟨hgrounded, hne⟩
        cases r <;> exact seen_of_ne_nil hgrounded hne
  | none =>
      refine Program.grounded_bind ((Instance.grounded_sync (Or.inl rfl)).imp ?_)
      rintro ⟨r, i'⟩ l' hl hr
      cases r with
      | error f => exact ⟨h.extends hl, fun _ a ha => nomatch ha⟩
      | ok _ =>
          have hinitial : l'.events id = [] → ∀ a, (Except.ok (look i') : Except Fault α) = .ok a →
              ∃ i, a = look i ∧ i.version = noStream ∧ i.net.marking = .initial e.schema := by
            intro hnil a ha
            obtain ⟨hnet, hversion⟩ := hr.same hnil
            exact ⟨i', (Except.ok.inj ha).symm, hversion, congrArg (·.marking) hnet⟩
          dsimp only
          split
          · exact ⟨h.extends hl, hinitial⟩
          · rename_i hne
            exact ⟨(h.extends hl).keep (hr.placed.resolve_left hne), hinitial⟩

theorem grounded_loadState (h : e.Grounded l) :
    (e.loadState id).Grounded (e.Seen id (view id)) l := by
  unfold loadState
  cases hget : e.instances.get? id with
  | none => exact grounded_inspectWith h (view id)
  | some i =>
      refine Program.grounded_bind ((grounded_catchUp h hget).imp ?_)
      rintro ⟨r, i'⟩ l' - ⟨hgrounded, hne⟩
      cases r <;> exact seen_of_ne_nil hgrounded hne

end Engine

/-! ### Commands -/

/-- What a command leaves.  The state of an aggregate without events is that at the start of the
schema. -/
structure Command.Ended (c : Command) (e : Engine) (r : Outcome × Engine) (l : Ledger) : Prop where
  grounded : r.2.Grounded l
  initial : l.events c.aggregate = [] → ∀ st, r.1 = .state (.ok st) →
    st = ⟨c.aggregate, noStream, .initial e.schema⟩

namespace Command

variable {c : Command} {e : Engine} {l l' : Ledger}

theorem Ended.extends {r : Outcome × Engine} (hl : l.Extends l') (h : c.Ended e r l) :
    c.Ended e r l' :=
  ⟨h.grounded.extends hl, fun hnil => h.initial (hl.eq_nil hnil)⟩

private theorem ended_of_seen {r : Except Fault AggregateState × Engine}
    (h : e.Seen c.aggregate (Engine.view c.aggregate) r l) : c.Ended e (.state r.1, r.2) l := by
  refine ⟨h.grounded, fun hnil st hst => ?_⟩
  obtain ⟨i, rfl, hversion, hmarking⟩ := h.initial hnil st (Outcome.state.inj hst)
  rw [Engine.view, hversion, hmarking]

theorem grounded_program (h : e.Grounded l) : (c.program e).Grounded (c.Ended e) l := by
  cases c with
  | execute id action b metadata =>
      refine Program.grounded_bind ((Engine.grounded_execute h).imp fun r l' _ hr => ?_)
      exact ⟨hr, fun _ st hst => nomatch hst⟩
  | executeWithRetry id action b =>
      refine Program.grounded_bind ((Engine.grounded_executeUpTo _ h).imp fun r l' _ hr => ?_)
      exact ⟨hr, fun _ st hst => nomatch hst⟩
  | loadState id =>
      refine Program.grounded_bind ((Engine.grounded_loadState h).imp fun r l' _ hr => ?_)
      exact ended_of_seen hr
  | state id =>
      refine Program.grounded_bind ((Engine.grounded_inspectWith h _).imp fun r l' _ hr => ?_)
      exact ended_of_seen hr
  | enabledActions id =>
      refine Program.grounded_bind ((Engine.grounded_inspectWith h _).imp fun r l' _ hr => ?_)
      exact ⟨hr.grounded, fun _ st hst => nomatch hst⟩
  | evict id => exact ⟨h.forget id, fun _ st hst => nomatch hst⟩

end Command

end EventNet
