import EventNet.Proofs.Store.Hub
import EventNet.Proofs.Store.Streams

/-!
Clients take turns on a store.

They subscribe, append, ask for events, leave, cancel tokens and close the store, in any order.  A turn
has two effects that are followed here.  On each subscription it acts as on a queue: it hands out at most
the head and adds to the end what was just appended, is wanted and fits (`Store.follows_advance`).  On
the log it adds at the end what it appends (`Store.Holds.advance`).
-/

namespace EventNet

/-! ### Turns -/

/-- What some client of a store does next. -/
inductive Turn where
  | subscribe (filter : EventFilter) (token : String) (cancelled : Bool)
  | append (w : Writing)
  /-- Wait for the next event of a subscription. -/
  | receive (id : Nat)
  /-- Take the next event of a subscription if there is one. -/
  | poll (id : Nat)
  /-- Close a subscription or drop it. -/
  | leave (id : Nat)
  | cancel (token : String)
  /-- Time passes, and notice is taken of cancelled tokens. -/
  | settle
  /-- Close the store. -/
  | close

/-- Whether a turn ends the subscription of an identity that was made under a token. -/
def Turn.Ends (id : Nat) (token : String) (t : Turn) : Prop :=
  t = .leave id ∨ t = .cancel token ∨ t = .close

/-- Whether a turn asks for the next event of a subscription, be it that it waits or not. -/
def Turn.Asks (id : Nat) (t : Turn) : Prop :=
  t = .receive id ∨ t = .poll id

namespace Store

/-- Append to a store. -/
def write (s : Store) (w : Writing) : Except Fault Int × Store :=
  (s.append w.stream w.expected w.batch).value

/-- A store after a turn. -/
def advance (s : Store) : Turn → Store
  | .subscribe filter token cancelled => (s.subscribe filter token cancelled).value.2
  | .append w => (s.write w).2
  | .receive id => s.withHub (s.hub.next id).2
  | .poll id => s.withHub (s.hub.take? id).2
  | .leave id => s.withHub (s.hub.close id).value
  | .cancel token => s.withHub (s.hub.cancel token)
  | .settle => s.withHub s.hub.settle
  | .close => s.close.value

/-- The events that a turn appends. -/
def added (s : Store) : Turn → List Event
  | .append w => w.placed (s.write w).1
  | _ => []

/-- The event that a turn hands to a subscription. -/
def handed (s : Store) (id : Nat) : Turn → Option Event
  | .receive i => if i = id then (s.hub.next i).1.event? else none
  | .poll i => if i = id then (s.hub.take? i).1 else none
  | _ => none

/-- A store after some turns. -/
def after (s : Store) (turns : List Turn) : Store :=
  turns.foldl advance s

/-- The events that some turns append, in order. -/
def addedBy (s : Store) : List Turn → List Event
  | [] => []
  | t :: rest => s.added t ++ addedBy (s.advance t) rest

/-- The events that some turns hand to a subscription, in order. -/
def handedTo (s : Store) (id : Nat) : List Turn → List Event
  | [] => []
  | t :: rest => (s.handed id t).toList ++ handedTo (s.advance t) id rest

/-- What a subscription has been handed and what it has queued. -/
def fed (s : Store) (id : Nat) (turns : List Turn) : List Event :=
  s.handedTo id turns ++ (s.after turns).hub.queued id

theorem after_snoc (s : Store) (turns : List Turn) (t : Turn) :
    s.after (turns ++ [t]) = (s.after turns).advance t :=
  List.foldl_append

theorem addedBy_append (s : Store) (turns more : List Turn) :
    s.addedBy (turns ++ more) = s.addedBy turns ++ (s.after turns).addedBy more := by
  induction turns generalizing s with
  | nil => rfl
  | cons t rest ih =>
      show s.added t ++ (s.advance t).addedBy (rest ++ more) = _
      rw [ih, ← List.append_assoc]
      rfl

theorem addedBy_snoc (s : Store) (turns : List Turn) (t : Turn) :
    s.addedBy (turns ++ [t]) = s.addedBy turns ++ (s.after turns).added t := by
  rw [addedBy_append]
  exact congrArg _ (List.append_nil _)

theorem handedTo_snoc (s : Store) (id : Nat) (turns : List Turn) (t : Turn) :
    s.handedTo id (turns ++ [t]) = s.handedTo id turns ++ ((s.after turns).handed id t).toList := by
  induction turns generalizing s with
  | nil => exact List.append_nil _
  | cons u rest ih =>
      show _ ++ (s.advance u).handedTo id (rest ++ [t]) = _
      rw [ih, ← List.append_assoc]
      rfl

/-! ### Hubs of stores -/

theorem hub_withHub (s : Store) (hub : Hub) : (s.withHub hub).hub = hub := by
  cases s <;> rfl

/-- Whether calls on the store are refused. -/
def closed : Store → Bool
  | .memory m => m.closed
  | .database c _ => c.closed

theorem Holds.closed_eq {s : Store} {l : Ledger} (h : s.Holds l) : s.closed = l.closed := by
  cases s with
  | memory m => exact congrArg Ledger.closed h
  | database c db => exact Connection.Holds.closed h

theorem subscribe_cases (s : Store) (filter : EventFilter) (token : String) (cancelled : Bool) :
    (s.closed = true ∧
      (s.subscribe filter token cancelled).value = (.error .storeClosed, s)) ∨
    (s.closed = false ∧
      (s.subscribe filter token cancelled).value =
        (.ok s.hub.subscriptions.length,
          s.withHub (s.hub.subscribe filter token cancelled).value.2)) := by
  cases hc : s.closed with
  | true =>
      refine Or.inl ⟨rfl, ?_⟩
      cases s with
      | memory m =>
          simp only [subscribe, MemoryStore.subscribe, if_pos (show m.closed = true from hc)]
          rfl
      | database c db =>
          simp only [subscribe, Connection.subscribe, if_pos (show c.closed = true from hc)]
          rfl
  | false =>
      refine Or.inr ⟨rfl, ?_⟩
      cases s with
      | memory m =>
          have hopen : ¬ m.closed = true := ne_true_of_eq_false hc
          simp only [subscribe, MemoryStore.subscribe, if_neg hopen]
          rfl
      | database c db =>
          have hopen : ¬ c.closed = true := ne_true_of_eq_false hc
          simp only [subscribe, Connection.subscribe, if_neg hopen]
          rfl

theorem hub_subscribe (s : Store) (filter : EventFilter) (token : String) (cancelled : Bool) :
    (s.subscribe filter token cancelled).value.2.hub = s.hub ∨
      (s.subscribe filter token cancelled).value.2.hub =
        (s.hub.subscribe filter token cancelled).value.2 := by
  rcases s.subscribe_cases filter token cancelled with ⟨-, heq⟩ | ⟨-, heq⟩
  · rw [heq]
    exact Or.inl rfl
  · rw [heq]
    exact Or.inr (s.hub_withHub _)

theorem hub_close (s : Store) : s.close.value.hub = s.hub ∨ s.close.value.hub = s.hub.closeAll := by
  cases s with
  | memory m =>
      show m.close.value.hub = m.hub ∨ m.close.value.hub = m.hub.closeAll
      unfold MemoryStore.close
      split
      · exact Or.inl rfl
      · exact Or.inr rfl
  | database c db =>
      show c.close.value.hub = c.hub ∨ c.close.value.hub = c.hub.closeAll
      unfold Connection.close
      split
      · exact Or.inl rfl
      · exact Or.inr rfl

end Store

theorem MemoryStore.hub_write (s : MemoryStore) (w : Writing) :
    (s.write w).2.hub = (s.hub.publish (w.placed (s.write w).1)).value := by
  unfold write append
  split
  · exact (Hub.publish_nil s.hub).symm
  dsimp only
  split
  · exact (Hub.publish_nil s.hub).symm
  split
  · rename_i hempty
    show s.hub = (s.hub.publish (Batch.numberFrom w.stream (w.expected + 1) w.batch)).value
    rw [List.isEmpty_iff.mp hempty]
    exact (Hub.publish_nil s.hub).symm
  split
  · exact (Hub.publish_nil s.hub).symm
  · rename_i stamped hs
    rcases Batch.stamp_cases w.stream w.expected w.batch with hn | ⟨f, hf⟩
    · obtain rfl := Except.ok.inj (hs.symm.trans hn)
      rfl
    · cases hs.symm.trans hf

theorem Connection.hub_append (c : Connection) (db : Database) (w : Writing) :
    (c.append db w.stream w.expected w.batch).value.2.1.hub =
      (c.hub.settle.publish
        (w.placed (c.append db w.stream w.expected w.batch).value.1)).value := by
  unfold append
  split
  · exact (Hub.publish_nil c.hub.settle).symm
  · rename_i version t stamped happended
    obtain ⟨t₀, -, happended⟩ : ∃ t₀, c.tables db = .ok t₀ ∧
        appended t₀ w.stream w.expected w.batch = .ok (version, t, stamped) := by
      cases htables : c.tables db with
      | error f =>
          rw [htables] at happended
          cases happended
      | ok t₀ =>
          rw [htables] at happended
          exact ⟨t₀, rfl, happended⟩
    obtain ⟨hstamped, -⟩ := of_appended happended
    split
    · rename_i hempty
      show c.hub.settle =
        (c.hub.settle.publish (Batch.numberFrom w.stream (w.expected + 1) w.batch)).value
      rw [← hstamped, List.isEmpty_iff.mp hempty]
      exact (Hub.publish_nil c.hub.settle).symm
    · show (c.hub.settle.publish stamped).value =
        (c.hub.settle.publish (Batch.numberFrom w.stream (w.expected + 1) w.batch)).value
      rw [hstamped]

namespace Store

/-- What was appended is published, before or after notice is taken of cancelled tokens. -/
theorem hub_write (s : Store) (w : Writing) :
    (s.write w).2.hub = (s.hub.publish (w.placed (s.write w).1)).value ∨
      (s.write w).2.hub = (s.hub.settle.publish (w.placed (s.write w).1)).value := by
  cases s with
  | memory m => exact Or.inl (m.hub_write w)
  | database c db => exact Or.inr (c.hub_append db w)

theorem capacity_advance (s : Store) (t : Turn) : (s.advance t).hub.capacity = s.hub.capacity := by
  cases t with
  | subscribe filter token cancelled =>
      rcases s.hub_subscribe filter token cancelled with heq | heq
      · exact congrArg Hub.capacity heq
      · exact (congrArg Hub.capacity heq).trans rfl
  | append w =>
      rcases s.hub_write w with heq | heq
      · exact (congrArg Hub.capacity heq).trans (Hub.capacity_publish ..)
      · exact (congrArg Hub.capacity heq).trans (Hub.capacity_publish ..)
  | receive id => exact (congrArg Hub.capacity (s.hub_withHub _)).trans (s.hub.capacity_next id)
  | poll id => exact (congrArg Hub.capacity (s.hub_withHub _)).trans (s.hub.capacity_take? id)
  | leave id => exact (congrArg Hub.capacity (s.hub_withHub _)).trans (s.hub.capacity_close id)
  | cancel token => exact (congrArg Hub.capacity (s.hub_withHub _)).trans rfl
  | settle => exact (congrArg Hub.capacity (s.hub_withHub _)).trans rfl
  | close =>
      rcases s.hub_close with heq | heq
      · exact congrArg Hub.capacity heq
      · exact (congrArg Hub.capacity heq).trans rfl

theorem capacity_after (s : Store) (turns : List Turn) :
    (s.after turns).hub.capacity = s.hub.capacity := by
  induction turns generalizing s with
  | nil => rfl
  | cons t rest ih => exact (ih (s.advance t)).trans (s.capacity_advance t)

theorem exists_withHub {s : Store} {hub : Hub} {id : Nat} {P : Subscription → Prop}
    (h : ∃ sub, hub.subscriptions[id]? = some sub ∧ P sub) :
    ∃ sub, (s.withHub hub).hub.subscriptions[id]? = some sub ∧ P sub := by
  rwa [hub_withHub]

/-- **One turn serves a subscription as a queue.** -/
theorem follows_advance {s : Store} {id : Nat} {sub : Subscription}
    (hsub : s.hub.subscriptions[id]? = some sub) (t : Turn) :
    ∃ sub', (s.advance t).hub.subscriptions[id]? = some sub' ∧
      sub.Follows s.hub.capacity (s.added t) (s.handed id t) (t.Ends id sub.token) sub' := by
  cases t with
  | subscribe filter token cancelled =>
      refine ⟨sub, ?_, .refl⟩
      rcases s.hub_subscribe filter token cancelled with heq | heq
      · exact heq ▸ hsub
      · exact heq ▸ Hub.follows_subscribe hsub filter token cancelled
  | append w =>
      show ∃ sub', (s.write w).2.hub.subscriptions[id]? = some sub' ∧ _
      rcases s.hub_write w with heq | heq
      · rw [heq]
        exact Hub.follows_publish hsub _ _
      · obtain ⟨sub', hsub', hfollows⟩ := Hub.follows_publish (Hub.getElem?_settle hsub) _ _
        rw [heq]
        exact ⟨sub', hsub', hfollows.of_settled⟩
  | receive i => exact exists_withHub (Hub.follows_next hsub i)
  | poll i => exact exists_withHub (Hub.follows_take? hsub _ i)
  | leave i =>
      exact exists_withHub (Hub.follows_close hsub i fun hi => Or.inl (congrArg Turn.leave hi))
  | cancel token =>
      exact exists_withHub (Hub.follows_cancel hsub token fun htoken =>
        Or.inr (Or.inl (congrArg Turn.cancel htoken)))
  | settle => exact exists_withHub (Hub.follows_settle hsub)
  | close =>
      show ∃ sub', s.close.value.hub.subscriptions[id]? = some sub' ∧ _
      rcases s.hub_close with heq | heq
      · rw [heq]
        exact ⟨sub, hsub, .refl⟩
      · rw [heq]
        exact Hub.follows_closeAll hsub (Or.inr (Or.inr rfl))

/-! ### What the store holds -/

/-- Whether a store keeps all that some turns append. -/
def KeepsAll (s : Store) (turns : List Turn) : Prop :=
  ∀ w, Turn.append w ∈ turns → ∀ e ∈ w.batch, s.Keeps e

variable {s : Store} {l : Ledger}

theorem keeps_advance (s : Store) (t : Turn) (e : Event) : (s.advance t).Keeps e ↔ s.Keeps e := by
  cases s with
  | memory m => cases t <;> exact Iff.rfl
  | database c db => cases t <;> exact Iff.rfl

theorem KeepsAll.advance {turns : List Turn} (h : s.KeepsAll turns) (t : Turn) :
    (s.advance t).KeepsAll turns :=
  fun w hw e he => (s.keeps_advance t e).mpr (h w hw e he)

theorem KeepsAll.after {turns : List Turn} (h : s.KeepsAll turns) (before : List Turn) :
    (s.after before).KeepsAll turns := by
  induction before generalizing s with
  | nil => exact h
  | cons t rest ih => exact ih (h.advance t)

theorem KeepsAll.withHub {turns : List Turn} (h : s.KeepsAll turns) (hub : Hub) :
    (s.withHub hub).KeepsAll turns := by
  cases s <;> exact h

theorem keepsAll_append {turns more : List Turn} :
    s.KeepsAll (turns ++ more) ↔ s.KeepsAll turns ∧ s.KeepsAll more := by
  constructor
  · exact fun h => ⟨fun w hw => h w (List.mem_append_left more hw),
      fun w hw => h w (List.mem_append_right turns hw)⟩
  · rintro ⟨hturns, hmore⟩ w hw
    exact (List.mem_append.mp hw).elim (hturns w) (hmore w)

theorem Holds.withHub (h : s.Holds l) (hub : Hub) : (s.withHub hub).Holds l := by
  cases s with
  | memory m => exact h
  | database c db => exact ⟨h.closed, h.pool, h.tables⟩

theorem Holds.write (h : s.Holds l) {w : Writing} (hbatch : ∀ e ∈ w.batch, s.Keeps e) :
    ∃ l', (s.write w).2.Holds l' ∧ l'.log = l.log ++ w.placed (s.write w).1 ∧
      (l.Numbered → l'.Numbered) ∧ l'.closed = l.closed := by
  rcases h.append w.stream w.expected hbatch with ⟨hanswer, hholds⟩ | ⟨-, ⟨f, hanswer⟩, hholds⟩
  · refine ⟨_, hholds, ?_, fun hn => hn.append w.stream w.expected w.batch, ?_⟩
    · show _ = l.log ++ w.placed (s.append w.stream w.expected w.batch).value.1
      rw [hanswer]
      rcases l.append_cases w.stream w.expected w.batch with ⟨-, hversion, heq⟩ | ⟨f, heq⟩
      · rw [heq]
        show _ ++ _ = _ ++ Batch.numberFrom w.stream (w.expected + 1) w.batch
        rw [hversion]
      · rw [heq]
        exact (List.append_nil _).symm
    · rcases l.append_cases w.stream w.expected w.batch with ⟨-, -, heq⟩ | ⟨f, heq⟩
      · rw [heq]
        rfl
      · rw [heq]
  · refine ⟨l, hholds, ?_, id, rfl⟩
    show l.log = l.log ++ w.placed (s.append w.stream w.expected w.batch).value.1
    rw [hanswer]
    exact (List.append_nil _).symm

/-- A turn adds to the log what it appends, and only closing the store closes the ledger. -/
theorem Holds.advance (h : s.Holds l) (hn : l.Numbered) {t : Turn} (ht : s.KeepsAll [t]) :
    ∃ l', (s.advance t).Holds l' ∧ l'.Numbered ∧ l'.log = l.log ++ s.added t ∧
      (Turn.close ≠ t → l'.closed = l.closed) := by
  have hnil : l.log = l.log ++ [] := (List.append_nil _).symm
  cases t with
  | append w =>
      obtain ⟨l', hl', hlog, hnumbered, hclosed⟩ := h.write (ht w (List.mem_singleton.mpr rfl))
      exact ⟨l', hl', hnumbered hn, hlog, fun _ => hclosed⟩
  | subscribe filter token cancelled =>
      refine ⟨l, ?_, hn, hnil, fun _ => rfl⟩
      show (s.subscribe filter token cancelled).value.2.Holds l
      rcases s.subscribe_cases filter token cancelled with ⟨-, heq⟩ | ⟨-, heq⟩
      · rw [heq]
        exact h
      · rw [heq]
        exact h.withHub _
  | receive id => exact ⟨l, h.withHub _, hn, hnil, fun _ => rfl⟩
  | poll id => exact ⟨l, h.withHub _, hn, hnil, fun _ => rfl⟩
  | leave id => exact ⟨l, h.withHub _, hn, hnil, fun _ => rfl⟩
  | cancel token => exact ⟨l, h.withHub _, hn, hnil, fun _ => rfl⟩
  | settle => exact ⟨l, h.withHub _, hn, hnil, fun _ => rfl⟩
  | close => exact ⟨l.close, h.close, hn, hnil, fun hne => absurd rfl hne⟩

theorem Holds.after (h : s.Holds l) (hn : l.Numbered) {turns : List Turn} (ht : s.KeepsAll turns) :
    ∃ l', (s.after turns).Holds l' ∧ l'.Numbered ∧ l'.log = l.log ++ s.addedBy turns ∧
      (Turn.close ∉ turns → l'.closed = l.closed) := by
  induction turns generalizing s l with
  | nil => exact ⟨l, h, hn, (List.append_nil _).symm, fun _ => rfl⟩
  | cons t rest ih =>
      have hfirst : s.KeepsAll [t] := fun w hw =>
        ht w (List.mem_singleton.mp hw ▸ List.mem_cons_self)
      have hrest : s.KeepsAll rest := fun w hw => ht w (List.mem_cons_of_mem t hw)
      obtain ⟨l₁, h₁, hn₁, hlog₁, hclosed₁⟩ := h.advance hn hfirst
      obtain ⟨l', h', hn', hlog', hclosed'⟩ := ih h₁ hn₁ (hrest.advance t)
      refine ⟨l', h', hn', ?_, fun hclose => ?_⟩
      · rw [hlog', hlog₁, List.append_assoc]
        rfl
      · obtain ⟨hne, hnotin⟩ := not_or.mp (mt List.mem_cons.mpr hclose)
        rw [hclosed' hnotin, hclosed₁ hne]

end Store

end EventNet
