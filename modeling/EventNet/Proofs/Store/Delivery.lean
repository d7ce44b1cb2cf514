import EventNet.Proofs.Store.Turns
import Mathlib.Data.List.Induction

/-!
What a subscription is handed over a run of a store.

What a subscription has been handed and what it still has queued are together a part of what was appended
since it was made, in the same order.  What is missing was not wanted, or it found the queue full or the
subscription gone (`Fed`).  With the ledger that the store holds, the versions of a stream ascend in what
is handed out, and everything handed out is read back at its place.
-/

namespace EventNet

/-! ### One subscription over a run -/

/-- What was asked for with a subscription. -/
structure Feed where
  id : Nat
  filter : EventFilter
  token : String
  /-- Whether the token was cancelled before. -/
  cancelled : Bool

/-- Whether something has ended the subscription. -/
def Feed.Over (f : Feed) (turns : List Turn) : Prop :=
  f.cancelled = true ∨ ∃ t ∈ turns, t.Ends f.id f.token

theorem Feed.Over.append {f : Feed} {turns : List Turn} (h : f.Over turns) (more : List Turn) :
    f.Over (turns ++ more) :=
  h.imp_right fun ⟨t, ht, hends⟩ => ⟨t, List.mem_append_left more ht, hends⟩

/-- When an event was appended, after the earlier ones of its batch, the queue was full or the
subscription was gone. -/
def Store.Missed (s : Store) (f : Feed) (capacity : Nat) (turns : List Turn) (e : Event) : Prop :=
  ∃ (before : List Turn) (w : Writing) (rest : List Turn) (earlier later : List Event),
    turns = before ++ .append w :: rest ∧
    (s.after before).added (.append w) = earlier ++ e :: later ∧
    ((((s.after before).hub.publish earlier).value.queued f.id).length = capacity ∨
      (s.after before).hub.settle.offersTo f.id = false ∧ f.Over before)

theorem Store.Missed.append {s : Store} {f : Feed} {capacity : Nat} {turns : List Turn} {e : Event}
    (h : s.Missed f capacity turns e) (more : List Turn) : s.Missed f capacity (turns ++ more) e := by
  obtain ⟨before, w, rest, earlier, later, rfl, hadded, hwhy⟩ := h
  exact ⟨before, w, rest ++ more, earlier, later, by simp, hadded, hwhy⟩

/-- What fits is a part of what is wanted. -/
theorem Subscription.fitting_sublist (capacity : Nat) (s : Subscription) (events : List Event) :
    (s.fitting capacity events).Sublist (events.filter s.filter.passes) :=
  List.take_sublist ..

/-- A wanted event does not fit if those before it fill the queue. -/
theorem Subscription.full_of_not_fitting {s : Subscription} {capacity : Nat} {e : Event}
    {earlier later : List Event} (hqueue : s.queue.length ≤ capacity)
    (hpasses : s.filter.passes e = true) (he : e ∉ s.fitting capacity (earlier ++ e :: later)) :
    (s.queue ++ s.fitting capacity earlier).length = capacity := by
  have hfull : capacity - s.queue.length ≤ (earlier.filter s.filter.passes).length := by
    by_contra hroom
    refine he ?_
    obtain ⟨n, hn⟩ := Nat.exists_eq_add_of_lt (Nat.lt_of_not_le hroom)
    unfold fitting
    rw [List.filter_append, List.filter_cons_of_pos hpasses, hn, Nat.add_assoc,
      List.take_length_add_append, List.take_succ_cons]
    exact List.mem_append_right _ List.mem_cons_self
  unfold fitting
  rw [List.length_append, List.length_take]
  omega

/-- What holds of a subscription after some turns on the store it was made on. -/
structure Store.Fed (s : Store) (f : Feed) (capacity : Nat) (turns : List Turn) : Prop where
  bound : (s.after turns).hub.capacity = capacity
  subscription : ∃ sub, (s.after turns).hub.subscriptions[f.id]? = some sub ∧
    sub.filter = f.filter ∧ sub.token = f.token ∧ sub.queue.length ≤ capacity ∧
      (sub.gone = true → f.Over turns)
  inOrder : (s.fed f.id turns).Sublist ((s.addedBy turns).filter f.filter.passes)
  missed : ∀ e ∈ s.addedBy turns, f.filter.passes e = true → e ∉ s.fed f.id turns →
    s.Missed f capacity turns e

namespace Store

variable {s : Store} {f : Feed} {capacity : Nat} {turns : List Turn}

/-- Over one turn only what is delivered comes to the end of what a subscription is fed. -/
theorem fed_snoc {sub sub' : Subscription} {t : Turn}
    (hsub : (s.after turns).hub.subscriptions[f.id]? = some sub)
    (hsub' : (s.after (turns ++ [t])).hub.subscriptions[f.id]? = some sub')
    {delivered : List Event}
    (hqueue : ((s.after turns).handed f.id t).toList ++ sub'.queue = sub.queue ++ delivered) :
    s.fed f.id (turns ++ [t]) = s.fed f.id turns ++ delivered := by
  unfold fed
  rw [handedTo_snoc, Hub.queued_eq hsub, Hub.queued_eq hsub', List.append_assoc, hqueue,
    List.append_assoc]

/-- Whoever misses an event of the last turn finds the queue full or is gone. -/
theorem Fed.missed_last (h : s.Fed f capacity turns) {sub : Subscription}
    (hsub : (s.after turns).hub.subscriptions[f.id]? = some sub) (hfilter : sub.filter = f.filter)
    (hlength : sub.queue.length ≤ capacity) (hover : sub.gone = true → f.Over turns) {t : Turn}
    {delivered : List Event}
    (hdelivered : delivered = sub.fitting capacity ((s.after turns).added t) ∨
      delivered = [] ∧ sub.gone = true) {e : Event} (he : e ∈ (s.after turns).added t)
    (hpasses : f.filter.passes e = true) (hnot : e ∉ delivered) :
    s.Missed f capacity (turns ++ [t]) e := by
  obtain ⟨w, rfl⟩ : ∃ w, t = .append w := by
    cases t with
    | append w => exact ⟨w, rfl⟩
    | _ => exact absurd he List.not_mem_nil
  obtain ⟨earlier, later, hsplit⟩ := List.append_of_mem he
  refine ⟨turns, w, [], earlier, later, rfl, hsplit, ?_⟩
  have hgone : sub.gone = true →
      (s.after turns).hub.settle.offersTo f.id = false ∧ f.Over turns := fun hgone =>
    ⟨by rw [Hub.offersTo_settle hsub, hgone]; rfl, hover hgone⟩
  rcases hdelivered with rfl | ⟨-, hg⟩
  · cases hattached : sub.attached with
    | true =>
        rw [hsplit] at hnot
        rw [Hub.queued_publish hsub hattached, h.bound]
        exact Or.inl (Subscription.full_of_not_fitting hlength (hfilter ▸ hpasses) hnot)
    | false => exact Or.inr (hgone (by simp [Subscription.gone, hattached]))
  · exact Or.inr (hgone hg)

theorem Fed.step (h : s.Fed f capacity turns) (t : Turn) : s.Fed f capacity (turns ++ [t]) := by
  obtain ⟨sub, hsub, hfilter, htoken, hlength, hover⟩ := h.subscription
  obtain ⟨sub', hsub', hfollows⟩ := follows_advance hsub t
  rw [← after_snoc] at hsub'
  obtain ⟨delivered, hqueue, hdelivered⟩ := hfollows.queue
  rw [h.bound] at hdelivered
  have hfed := fed_snoc hsub hsub' hqueue
  have hfitting : (sub.fitting capacity ((s.after turns).added t)).length ≤
      capacity - sub.queue.length := List.length_take_le ..
  refine ⟨?_, ⟨sub', hsub', hfollows.filter.trans hfilter, hfollows.token.trans htoken, ?_, ?_⟩,
    ?_, ?_⟩
  · rw [after_snoc, capacity_advance, h.bound]
  · have hlengths := congrArg List.length hqueue
    rw [List.length_append, List.length_append] at hlengths
    rcases hdelivered with rfl | ⟨rfl, -⟩
    · omega
    · rw [List.length_nil] at hlengths
      omega
  · intro hgone
    rcases hfollows.gone hgone with hgone | hends
    · exact (hover hgone).append [t]
    · exact Or.inr ⟨t, List.mem_append_right turns List.mem_cons_self, htoken ▸ hends⟩
  · rw [hfed, addedBy_snoc, List.filter_append]
    refine h.inOrder.append ?_
    rcases hdelivered with rfl | ⟨rfl, -⟩
    · exact hfilter ▸ sub.fitting_sublist ..
    · exact List.nil_sublist _
  · intro e he hpasses hnot
    rw [hfed] at hnot
    obtain ⟨hnotFed, hnotDelivered⟩ := not_or.mp (mt List.mem_append.mpr hnot)
    rw [addedBy_snoc] at he
    rcases List.mem_append.mp he with he | he
    · exact (h.missed e he hpasses hnotFed).append [t]
    · exact h.missed_last hsub hfilter hlength hover hdelivered he hpasses hnotDelivered

theorem Fed.append (h : s.Fed f capacity turns) (more : List Turn) :
    s.Fed f capacity (turns ++ more) := by
  induction more using List.reverseRecOn with
  | nil => rwa [List.append_nil]
  | append_singleton more t ih =>
      rw [← List.append_assoc]
      exact ih.step t

/-- Nothing that was queued is lost over further turns. -/
theorem Fed.grows (h : s.Fed f capacity turns) (more : List Turn) :
    s.fed f.id turns <+: s.fed f.id (turns ++ more) := by
  induction more using List.reverseRecOn with
  | nil => exact (congrArg (s.fed f.id) (List.append_nil turns)).symm ▸ List.prefix_rfl
  | append_singleton more t ih =>
      obtain ⟨sub, hsub, -⟩ := (h.append more).subscription
      obtain ⟨sub', hsub', hfollows⟩ := follows_advance hsub t
      rw [← after_snoc] at hsub'
      obtain ⟨delivered, hqueue, -⟩ := hfollows.queue
      rw [← List.append_assoc, fed_snoc hsub hsub' hqueue]
      exact ih.trans (List.prefix_append ..)

/-- A new subscription has nothing queued and has missed nothing. -/
theorem fed_subscribe {s s' : Store} {f : Feed}
    (h : (s.subscribe f.filter f.token f.cancelled).value = (.ok f.id, s')) :
    s'.Fed f s.hub.capacity [] := by
  rcases s.subscribe_cases f.filter f.token f.cancelled with ⟨-, heq⟩ | ⟨-, heq⟩
  · cases heq.symm.trans h
  have hid : s.hub.subscriptions.length = f.id := Except.ok.inj (congrArg Prod.fst (heq.symm.trans h))
  obtain rfl : s.withHub (s.hub.subscribe f.filter f.token f.cancelled).value.2 = s' :=
    congrArg Prod.snd (heq.symm.trans h)
  have hsub : (s.hub.subscribe f.filter f.token f.cancelled).value.2.subscriptions[f.id]? =
      some ⟨f.filter, f.token, [], true, f.cancelled, false⟩ := by
    rw [← hid]
    exact List.getElem?_concat_length
  rw [← s.hub_withHub (s.hub.subscribe f.filter f.token f.cancelled).value.2] at hsub
  refine ⟨(congrArg Hub.capacity (s.hub_withHub _)).trans rfl,
    ⟨_, hsub, rfl, rfl, Nat.zero_le _, ?_⟩, ?_, ?_⟩
  · exact fun hgone => Or.inl hgone
  · rw [fed, after, List.foldl_nil, Hub.queued_eq hsub]
    exact List.Sublist.refl []
  · exact fun e he => absurd he List.not_mem_nil

/-! ### Asking for what is queued -/

theorem handed_of_asks {id : Nat} {sub : Subscription}
    (hsub : s.hub.subscriptions[id]? = some sub) {t : Turn} (ht : t.Asks id) :
    s.handed id t = sub.queue.head? ∧ s.added t = [] := by
  obtain ⟨htake, -⟩ := Hub.take?_self hsub
  rcases ht with rfl | rfl
  · refine ⟨(if_pos rfl).trans ?_, rfl⟩
    rw [(s.hub.next_cases id).1, htake]
  · exact ⟨(if_pos rfl).trans htake, rfl⟩

/-- Asking goes through the queue from its head. -/
theorem handedTo_asks {id : Nat} {sub : Subscription}
    (hsub : s.hub.subscriptions[id]? = some sub) {asks : List Turn} (h : ∀ t ∈ asks, t.Asks id) :
    s.handedTo id asks = sub.queue.take asks.length := by
  induction asks generalizing s sub with
  | nil => rfl
  | cons t rest ih =>
      obtain ⟨ht, hrest⟩ := List.forall_mem_cons.mp h
      obtain ⟨hhanded, hadded⟩ := handed_of_asks hsub ht
      obtain ⟨sub', hsub', hfollows⟩ := follows_advance hsub t
      obtain ⟨delivered, hqueue, hdelivered⟩ := hfollows.queue
      obtain rfl : delivered = [] := by
        rcases hdelivered with heq | ⟨heq, -⟩
        · rw [heq, hadded]
          exact List.take_nil
        · exact heq
      show (s.handed id t).toList ++ (s.advance t).handedTo id rest = _
      rw [ih hsub' hrest, hhanded]
      rw [hhanded, List.append_nil] at hqueue
      cases hq : sub.queue with
      | nil =>
          rw [hq] at hqueue
          have hnil : sub'.queue = [] := hqueue
          rw [hnil, List.take_nil, List.take_nil]
          rfl
      | cons e queue =>
          rw [hq] at hqueue
          have htail : sub'.queue = queue := (List.cons.inj hqueue).2
          rw [htail]
          rfl

/-- An append that is refused delivers nothing to anyone. -/
theorem queued_of_refused {w : Writing} {g : Fault} (h : (s.write w).1 = .error g) (id : Nat) :
    (s.write w).2.hub.queued id = s.hub.queued id := by
  have hplaced : w.placed (s.write w).1 = [] := by
    rw [h]
    rfl
  rcases s.hub_write w with heq | heq
  · rw [heq, hplaced, Hub.publish_nil]
  · rw [heq, hplaced, Hub.publish_nil, Hub.queued_settle]

/-! ### Reading back -/

/-- An event of the log is read from its stream, at its place. -/
theorem Holds.read_back {l : Ledger} (h : s.Holds l) (hn : l.Numbered) (hopen : l.closed = false)
    {e : Event} (he : e ∈ l.log) {start : Int} (hstart : start ≤ e.version) :
    ∃ events, (s.read e.stream start).value.1 = .ok events ∧
      events[e.version.toNat - start.toNat]? = some e := by
  have hmem : e ∈ l.events e.stream := List.mem_filter.mpr ⟨he, beq_self_eq_true e.stream⟩
  obtain ⟨i, hi⟩ := List.mem_iff_getElem?.mp hmem
  have hversion : e.version = i := hn e.stream i e hi
  refine ⟨_, (h.read e.stream start).1.trans (Ledger.answer_open hopen _), ?_⟩
  rw [List.getElem?_drop, show start.toNat + (e.version.toNat - start.toNat) = i by omega]
  exact hi

/-! ### Delivery -/

/-- A store as it is opened, without subscriptions and with all that a ledger holds. -/
structure Opened (s : Store) (buffer : Nat) : Prop where
  hub : s.hub = .new buffer
  holds : ∃ l, s.Holds l ∧ l.Numbered

/-- Stores of both kinds are opened empty. -/
theorem opened_new (buffer : Nat) :
    (memory (.new buffer)).Opened buffer ∧ (database (.new buffer) .new).Opened buffer :=
  ⟨⟨rfl, _, holds_memory_new buffer, Ledger.numbered_empty⟩,
    ⟨rfl, _, holds_database_new buffer, Ledger.numbered_empty⟩⟩

/-- What a store delivers to a subscription that was made on it, over some turns. -/
structure Delivers (s : Store) (f : Feed) (buffer : Nat) (turns : List Turn) : Prop where
  /-- What was handed out and what is queued come from what was appended, in order. -/
  inOrder : (s.fed f.id turns).Sublist (s.addedBy turns)
  wanted : ∀ e ∈ s.fed f.id turns, f.filter.passes e = true
  once : (s.fed f.id turns).Nodup
  ascending : (s.fed f.id turns).Pairwise fun a b => a.stream = b.stream → a.version < b.version
  /-- As long as the store is not closed, what is delivered is read at its place. -/
  readBack : ∀ more, s.KeepsAll more → Turn.close ∉ turns ++ more →
    ∀ e ∈ s.fed f.id turns, ∀ start ≤ e.version,
      ∃ events, ((s.after (turns ++ more)).read e.stream start).value.1 = .ok events ∧
        events[e.version.toNat - start.toNat]? = some e
  missed : ∀ e ∈ s.addedBy turns, f.filter.passes e = true → e ∉ s.fed f.id turns →
    s.Missed f (max buffer 1) turns e
  refused : ∀ (w : Writing) (g : Fault), ((s.after turns).write w).1 = .error g →
    ∀ id, ((s.after turns).write w).2.hub.queued id = (s.after turns).hub.queued id
  /-- Whatever the turns were, what is queued can be received. -/
  received : ∀ asks : List Turn, (∀ t ∈ asks, t.Asks f.id) →
    (s.after turns).handedTo f.id asks = ((s.after turns).hub.queued f.id).take asks.length
  grows : ∀ more, s.fed f.id turns <+: s.fed f.id (turns ++ more)

theorem Fed.sublist (h : s.Fed f capacity turns) : (s.fed f.id turns).Sublist (s.addedBy turns) :=
  h.inOrder.trans List.filter_sublist

theorem Fed.ascending {l : Ledger} (h : s.Fed f capacity turns) (hl : s.Holds l) (hn : l.Numbered)
    (hkeeps : s.KeepsAll turns) :
    (s.fed f.id turns).Pairwise fun a b => a.stream = b.stream → a.version < b.version := by
  obtain ⟨l', -, hn', hlog, -⟩ := hl.after hn hkeeps
  have hlogged := hn'.ascending
  rw [hlog] at hlogged
  exact (hlogged.sublist (List.sublist_append_right ..)).sublist h.sublist

theorem Fed.delivers {buffer : Nat} {l : Ledger} (h : s.Fed f (max buffer 1) turns) (hl : s.Holds l)
    (hn : l.Numbered) (hopen : l.closed = false) (hkeeps : s.KeepsAll turns) :
    s.Delivers f buffer turns where
  inOrder := h.sublist
  wanted e he := (List.mem_filter.mp (h.inOrder.subset he)).2
  once := by
    -- equal events are of one stream and have one version
    have hne : ∀ {a b : Event}, (a.stream = b.stream → a.version < b.version) → a ≠ b := by
      rintro a b hlt rfl
      exact Int.lt_irrefl _ (hlt rfl)
    exact (h.ascending hl hn hkeeps).imp hne
  ascending := h.ascending hl hn hkeeps
  readBack more hmore hclose e he start hstart := by
    obtain ⟨l', hl', hn', hlog, hclosed⟩ := hl.after hn (keepsAll_append.mpr ⟨hkeeps, hmore⟩)
    refine hl'.read_back hn' ((hclosed hclose).trans hopen) ?_ hstart
    rw [hlog, addedBy_append]
    exact List.mem_append_right _ (List.mem_append_left _ (h.sublist.subset he))
  missed := h.missed
  refused w g hg id := queued_of_refused hg id
  received asks hasks := by
    obtain ⟨sub, hsub, -⟩ := h.subscription
    rw [Hub.queued_eq hsub]
    exact handedTo_asks hsub hasks
  grows := h.grows

/-- **Delivery to a subscription.**  On a store of either kind, after any turns, a client subscribes,
and any turns follow.  What the subscription has been handed and what it has queued are a part of what
was appended meanwhile, in order and with ascending versions, all of it wanted and read back as it is.
What it missed found the queue full or the subscription gone. -/
theorem delivers_subscribed {s s' : Store} {buffer : Nat} (hs : s.Opened buffer)
    {earlier turns : List Turn} (hkeeps : s.KeepsAll (earlier ++ turns)) {f : Feed}
    (hsubscribed :
      ((s.after earlier).subscribe f.filter f.token f.cancelled).value = (.ok f.id, s')) :
    s'.Delivers f buffer turns := by
  obtain ⟨hearlier, hturns⟩ := keepsAll_append.mp hkeeps
  obtain ⟨l₀, hl₀, hn₀⟩ := hs.holds
  obtain ⟨l, hl, hn, -, -⟩ := hl₀.after hn₀ hearlier
  have hcapacity : (s.after earlier).hub.capacity = max buffer 1 := by
    rw [capacity_after, hs.hub]
    rfl
  have hfed := (fed_subscribe hsubscribed).append turns
  rw [hcapacity] at hfed
  rcases (s.after earlier).subscribe_cases f.filter f.token f.cancelled with ⟨-, heq⟩ | ⟨hopen, heq⟩
  · cases heq.symm.trans hsubscribed
  obtain rfl := congrArg Prod.snd (heq.symm.trans hsubscribed)
  exact hfed.delivers (hl.withHub _) hn (hl.closed_eq.symm.trans hopen)
    ((hturns.after earlier).withHub _)

end Store

/-! #### A reader of orders with room for one -/

/-- The orders, under a token of the shop. -/
def Feed.orders : Feed :=
  ⟨0, { EventFilter.all with stream := some "orders" }, "shop", false⟩

/-- Of two orders at once there is room for the first.  Another one is delivered, one is refused, and the
last one comes after the reader has left. -/
def orderTurns : List Turn :=
  let order := Event.order
  [.append ⟨"orders", -1, [order 1, order 2]⟩, .receive 0, .append ⟨"stock", -1, [order 3]⟩,
    .append ⟨"orders", 1, [order 4]⟩, .append ⟨"orders", 1, [order 5]⟩, .leave 0,
    .append ⟨"orders", 2, [order 6]⟩]

theorem Store.delivers_orders :
    let s := ((database (.new 1) .new).subscribe Feed.orders.filter "shop" false).value.2
    (s.fed 0 orderTurns).map (·.version) = [0, 2] ∧ s.Delivers .orders 1 orderTurns := by
  have hdata : (Json.obj []).Kept := ⟨by cbv, show Json.ofText? _ = _ by cbv⟩
  have htime : Instant.Plain ⟨0, 0⟩ := ⟨by decide, by decide⟩
  have hstorable : ∀ n < 2 ^ 128, (Event.order n).Storable := fun n hn =>
    ⟨hn, htime, hdata, fun _ h => by cases h⟩
  have hkeeps : (database (.new 1) .new).KeepsAll ([] ++ orderTurns) := by
    intro w hw e he
    simp only [orderTurns, List.nil_append, List.mem_cons, List.not_mem_nil, reduceCtorEq,
      Turn.append.injEq, false_or, or_false] at hw
    rcases hw with rfl | rfl | rfl | rfl | rfl <;>
      simp only [List.mem_cons, List.not_mem_nil, or_false] at he
    · rcases he with rfl | rfl
      · exact hstorable 1 (by decide)
      · exact hstorable 2 (by decide)
    all_goals
      rw [he]
      exact hstorable _ (by decide)
  exact ⟨by decide +kernel, delivers_subscribed (opened_new 1).2 hkeeps rfl⟩

end EventNet
