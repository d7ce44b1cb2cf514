import EventNet.Proofs.Engine.Interleaving

/-!
What a program can be relied on for while others use the store.

A ledger is `Faithful` when its saved states are those of its events, and an event in it is `Valid` when
it is accepted where it stands.  Others may extend the streams of a ledger between two calls of a
program.  `Program.Secures` says that whatever they do and whatever the store answers, every call of a
program is `Permitted`, so that it keeps the ledger faithful, and the result has some property.  It is
stated by recursion over the program, so what is known of a program is put together from what is known
of its parts.
-/

namespace EventNet

/-! ### Ledgers -/

/-- The answers that a store with a ledger may give to a call, and its ledger afterwards.  Every call
may be refused, which changes nothing. -/
def Ledger.Serves (l : Ledger) : (c : StoreCall) → c.Answer → Ledger → Prop
  | .loadSnapshot stream, r, l' =>
    l' = l ∧ (r = .ok (l.snapshots.get? stream) ∨ ∃ f, r = .error f)
  | .read stream start, r, l' =>
    l' = l ∧ (r = .ok ((l.events stream).drop start.toNat) ∨ ∃ f, r = .error f)
  | .append stream expected batch, r, l' =>
    l.version stream = expected ∧ r = .ok (expected + batch.length) ∧ l' = l.extend stream batch ∨
      l' = l ∧ ∃ f, r = .error f
  | .saveSnapshot x, r, l' =>
    r = .ok () ∧ l' = { l with snapshots := l.snapshots.insert x.stream x } ∨
      l' = l ∧ ∃ f, r = .error f

namespace Ledger

variable {l l' l'' : Ledger}

/-- Events may have been added at the ends of streams. -/
def Extends (l l' : Ledger) : Prop :=
  ∀ id, l.events id <+: l'.events id

theorem Extends.refl (l : Ledger) : l.Extends l :=
  fun _ => List.prefix_refl _

theorem Extends.trans (h : l.Extends l') (h' : l'.Extends l'') : l.Extends l'' :=
  fun id => (h id).trans (h' id)

theorem extends_extend (l : Ledger) (stream : String) (batch : List Event) :
    l.Extends (l.extend stream batch) := by
  intro id
  by_cases hs : stream = id
  · rw [← hs, events_extend_self]
    exact List.prefix_append ..
  · exact (events_extend_of_ne l hs batch).symm ▸ List.prefix_refl _

theorem Serves.extends {c : StoreCall} {r : c.Answer} (h : l.Serves c r l') : l.Extends l' := by
  cases c with
  | loadSnapshot stream => exact h.1 ▸ Extends.refl l
  | read stream start => exact h.1 ▸ Extends.refl l
  | append stream expected batch =>
      rcases h with ⟨-, -, rfl⟩ | ⟨rfl, -⟩
      · exact l.extends_extend stream batch
      · exact Extends.refl _
  | saveSnapshot x =>
      rcases h with ⟨-, rfl⟩ | ⟨rfl, -⟩
      · exact fun id => List.prefix_refl _
      · exact Extends.refl _

/-- The saved states of a ledger are those of its events. -/
structure Faithful (l : Ledger) (u : Setup) : Prop where
  opened : l.closed = false
  numbered : l.Numbered
  saved : ∀ id s, l.snapshots.get? id = some s → ∃ k, s.SavedAt u (l.events id) k

/-- An event is accepted where it stands in its stream, and violates no constraint there. -/
def Valid (l : Ledger) (u : Setup) (e : Event) : Prop :=
  ∃ before rest, l.events e.stream = before ++ e :: rest ∧ u.Accepts before e ∧
    (u.settings.checkConstraints = true → u.Consistent (before ++ [e]))

variable {u : Setup} {e : Event}

theorem Valid.extend (h : l.Valid u e) (hl : l.Extends l') : l'.Valid u e := by
  obtain ⟨before, rest, hevents, haccepts, hconsistent⟩ := h
  obtain ⟨more, hmore⟩ := hl e.stream
  refine ⟨before, rest ++ more, ?_, haccepts, hconsistent⟩
  rw [← hmore, hevents, List.append_assoc, List.cons_append]

theorem Faithful.extend (h : l.Faithful u) (stream : String) (batch : List Event) :
    (l.extend stream batch).Faithful u where
  opened := h.opened
  numbered := h.numbered.extend stream batch
  saved id s hs := by
    obtain ⟨k, hk⟩ := h.saved id s hs
    exact ⟨k, hk.extend (l.extends_extend stream batch id)⟩

theorem Faithful.saveSnapshot (h : l.Faithful u) {x : StateSnapshot} {k : Nat}
    (hx : x.SavedAt u (l.events x.stream) k) :
    Ledger.Faithful { l with snapshots := l.snapshots.insert x.stream x } u where
  opened := h.opened
  numbered := h.numbered
  saved id s hs := by
    by_cases hid : x.stream = id
    · rw [hid, Dict.get?_insert_self] at hs
      obtain rfl := Option.some.inj hs
      exact ⟨k, hid ▸ hx⟩
    · rw [Dict.get?_insert_of_ne _ _ hid] at hs
      exact h.saved id s hs

theorem version_eq (l : Ledger) (stream : String) :
    l.version stream = (l.events stream).length - 1 :=
  rfl

end Ledger

/-! ### Calls -/

/-- A call that is made on behalf of one aggregate and keeps the ledger faithful: an event that it adds
is valid in its place, and a state that it saves is that of the events. -/
def StoreCall.Permitted (u : Setup) (id : String) (l : Ledger) : StoreCall → Prop
  | .loadSnapshot stream => stream = id
  | .read stream _ => stream = id
  | .append stream expected batch =>
    stream = id ∧ ∃ e, batch = [e] ∧
      (l.version stream = expected →
        (l.extend stream batch).Valid u (Batch.place stream (expected + 1) e))
  | .saveSnapshot x => x.stream = id ∧ ∃ k, x.TakenAt u (l.events id) k

namespace Program

variable {α β : Type}

/-- Whatever others do between the calls of a program and whatever the store answers, its calls are
permitted and its result has a property. -/
def Secures (u : Setup) (id : String) (Q : α → Trace → Ledger → Prop) :
    Program α → Trace → Ledger → Prop
  | .done a, t, l => Q a t l
  | .report _ next, t, l => Secures u id Q next t l
  | .stamp next, t, l => ∀ s, Secures u id Q (next s) t l
  | .call c next, t, l =>
    ∀ l₁, l.Extends l₁ → l₁.Faithful u → c.Permitted u id l₁ ∧
      ∀ (r : c.Answer) (l₂ : Ledger), l₁.Serves c r l₂ → l₂.Faithful u →
        Secures u id Q (next r) (t.after c r (l₂.log.drop l₁.log.length) l₁.events) l₂

variable {u : Setup} {id : String} {P Q : α → Trace → Ledger → Prop} {p : Program α} {t : Trace}
  {l l' : Ledger}

theorem secures_andThen {f : α → Program β} {R : β → Trace → Ledger → Prop}
    (h : p.Secures u id (fun a t l => (f a).Secures u id R t l) t l) :
    (p.andThen f).Secures u id R t l := by
  induction p generalizing t l with
  | done a => exact h
  | report _ next ih => exact ih h
  | stamp next ih => exact fun s => ih s (h s)
  | call c next ih =>
      intro l₁ hl hf
      obtain ⟨hp, hnext⟩ := h l₁ hl hf
      exact ⟨hp, fun r l₂ hs hf => ih r (hnext r l₂ hs hf)⟩

theorem secures_bind {f : α → Program β} {R : β → Trace → Ledger → Prop}
    (h : p.Secures u id (fun a t l => (f a).Secures u id R t l) t l) :
    (p >>= f).Secures u id R t l :=
  secures_andThen h

/-- A weaker property may be claimed of the result, and the ledger it is reached in extends the one
started from. -/
theorem Secures.imp (h : p.Secures u id P t l)
    (hPQ : ∀ a t' l', l.Extends l' → P a t' l' → Q a t' l') : p.Secures u id Q t l := by
  induction p generalizing t l with
  | done a => exact hPQ a t l (Ledger.Extends.refl l) h
  | report _ next ih => exact ih h hPQ
  | stamp next ih => exact fun s => ih s (h s) hPQ
  | call c next ih =>
      intro l₁ hl hf
      obtain ⟨hp, hnext⟩ := h l₁ hl hf
      refine ⟨hp, fun r l₂ hs hf => ih r (hnext r l₂ hs hf) fun a t' l' hl' hP => ?_⟩
      exact hPQ a t' l' ((hl.trans hs.extends).trans hl') hP

/-- What a program can be relied on for, it can be relied on for after others have added events. -/
theorem Secures.extend (hQ : ∀ a t l l', l.Extends l' → Q a t l → Q a t l')
    (h : p.Secures u id Q t l) (hl : l.Extends l') : p.Secures u id Q t l' := by
  induction p generalizing t l with
  | done a => exact hQ a t l l' hl h
  | report _ next ih => exact ih h hl
  | stamp next ih => exact fun s => ih s (h s) hl
  | call c next ih => exact fun l₁ hl₁ hf => h l₁ (hl.trans hl₁) hf

/-! ### Single steps -/

theorem secures_emit {signals : List Signal} {Q : Unit → Trace → Ledger → Prop} (h : Q () t l) :
    (emit signals).Secures u id Q t l :=
  h

theorem secures_ofTraced {x : Traced α} (h : Q x.value t l) :
    (ofTraced x).Secures u id Q t l :=
  h

theorem secures_newStamp {Q : Stamp → Trace → Ledger → Prop} (h : ∀ s, Q s t l) :
    newStamp.Secures u id Q t l :=
  h

/-- A call that adds nothing leaves the events of a trace as they are. -/
private theorem drop_log (events : List Event) : events ++ l.log.drop l.log.length = events := by
  rw [List.drop_length, List.append_nil]

private theorem after_refused (c : StoreCall) (f : Fault)
    (hseen : ∀ stream start, c ≠ .read stream start) :
    t.after c (c.refusal f) (l.log.drop l.log.length) l.events = { t with refused := true } := by
  have hrefuses : c.refuses (c.refusal f) = true := by cases c <;> rfl
  unfold Trace.after
  rw [drop_log, hrefuses, Bool.or_true]
  cases c with
  | read stream start => exact absurd rfl (hseen stream start)
  | _ => rfl

theorem secures_loadSnapshot {Q : Except Fault (Option StateSnapshot) → Trace → Ledger → Prop}
    (h : ∀ l', l.Extends l' → l'.Faithful u → Q (.ok (l'.snapshots.get? id)) t l' ∧
      ∀ f, Q (.error f) { t with refused := true } l') :
    (loadSnapshot id).Secures u id Q t l := by
  intro l₁ hl hf
  refine ⟨rfl, fun r l₂ hs _ => ?_⟩
  obtain ⟨hok, herror⟩ := h l₁ hl hf
  obtain ⟨rfl, rfl | ⟨f, rfl⟩⟩ := hs
  · have hsame : t.after (.loadSnapshot id) (.ok (l₂.snapshots.get? id))
        (l₂.log.drop l₂.log.length) l₂.events = t := by
      unfold Trace.after
      rw [drop_log]
      exact congrArg (Trace.mk t.added t.seen) (Bool.or_false _)
    rw [hsame]
    exact hok
  · rw [show (Except.error f : StoreCall.Answer (.loadSnapshot id)) =
      StoreCall.refusal f (.loadSnapshot id) from rfl, after_refused _ _ (by simp)]
    exact herror f

theorem secures_read {start : Int} {Q : Except Fault (List Event) → Trace → Ledger → Prop}
    (h : ∀ l', l.Extends l' → l'.Faithful u →
      Q (.ok ((l'.events id).drop start.toNat)) { t with seen := l'.events id } l' ∧
      ∀ f, Q (.error f) { t with seen := l'.events id, refused := true } l') :
    (read id start).Secures u id Q t l := by
  intro l₁ hl hf
  refine ⟨rfl, fun r l₂ hs _ => ?_⟩
  obtain ⟨hok, herror⟩ := h l₁ hl hf
  obtain ⟨rfl, rfl | ⟨f, rfl⟩⟩ := hs
  · have hsame : t.after (.read id start) (.ok ((l₂.events id).drop start.toNat))
        (l₂.log.drop l₂.log.length) l₂.events = { t with seen := l₂.events id } := by
      unfold Trace.after
      rw [drop_log]
      exact congrArg (Trace.mk t.added (l₂.events id)) (Bool.or_false _)
    rw [hsame]
    exact hok
  · have hsame : t.after (.read id start) (.error f) (l₂.log.drop l₂.log.length) l₂.events =
        { t with seen := l₂.events id, refused := true } := by
      unfold Trace.after
      rw [drop_log]
      exact congrArg (Trace.mk t.added (l₂.events id)) (Bool.or_true _)
    rw [hsame]
    exact herror f

theorem secures_append {expected : Int} {e : Event}
    {Q : Except Fault Int → Trace → Ledger → Prop}
    (hvalid : ∀ l', l.Extends l' → l'.version id = expected →
      (l'.extend id [e]).Valid u (Batch.place id (expected + 1) e))
    (hok : ∀ l', l.Extends l' → l'.version id = expected → Q (.ok (expected + 1))
      { t with added := t.added ++ [Batch.place id (expected + 1) e] } (l'.extend id [e]))
    (herror : ∀ l' f, l.Extends l' → Q (.error f) { t with refused := true } l') :
    (append id expected [e]).Secures u id Q t l := by
  intro l₁ hl hf
  refine ⟨⟨rfl, e, rfl, hvalid l₁ hl⟩, fun r l₂ hs _ => ?_⟩
  rcases hs with ⟨hversion, rfl, rfl⟩ | ⟨rfl, f, rfl⟩
  · have hadded : (l₁.extend id [e]).log.drop l₁.log.length = [Batch.place id (expected + 1) e] := by
      show (l₁.log ++ Batch.numberFrom id (l₁.version id + 1) [e]).drop l₁.log.length = _
      rw [List.drop_left, hversion]
      rfl
    have hsame : t.after (.append id expected [e]) (.ok (expected + (1 : Nat)))
        ((l₁.extend id [e]).log.drop l₁.log.length) l₁.events =
        { t with added := t.added ++ [Batch.place id (expected + 1) e] } := by
      unfold Trace.after
      rw [hadded]
      exact congrArg (Trace.mk _ t.seen) (Bool.or_false _)
    have := hok l₁ hl hversion
    rw [← hsame] at this
    exact this
  · rw [show (Except.error f : StoreCall.Answer (.append id expected [e])) =
      StoreCall.refusal f (.append id expected [e]) from rfl, after_refused _ _ (by simp)]
    exact herror l₂ f hl

theorem secures_saveSnapshot {x : StateSnapshot} {Q : Except Fault Unit → Trace → Ledger → Prop}
    (hid : x.stream = id) (htaken : ∀ l', l.Extends l' → ∃ k, x.TakenAt u (l'.events id) k)
    (hQ : ∀ r t' l', l.Extends l' → t'.added = t.added → t'.seen = t.seen → Q r t' l') :
    (saveSnapshot x).Secures u id Q t l := by
  intro l₁ hl hf
  refine ⟨⟨hid, htaken l₁ hl⟩, fun r l₂ hs _ => ?_⟩
  have hlog : l₂.log = l₁.log := by
    rcases hs with ⟨-, rfl⟩ | ⟨rfl, -⟩ <;> rfl
  refine hQ _ _ _ (hl.trans hs.extends) ?_ rfl
  show t.added ++ l₂.log.drop l₁.log.length = t.added
  rw [hlog, drop_log]

end Program

end EventNet
