import EventNet.Store.Hub

/-!
What the calls on a hub make of one subscription.

Each subscription is served by itself: publishing adds to its queue as many of the events it wants as
fit, asking takes the oldest one away, and everything else only decides whether events are still offered.
A subscription whose token was cancelled counts as gone, since it is detached as soon as notice is taken.
-/

namespace EventNet

namespace Subscription

/-- Of some offered events those that are wanted and fit into the queue, the first ones. -/
def fitting (capacity : Nat) (s : Subscription) (events : List Event) : List Event :=
  (events.filter s.filter.passes).take (capacity - s.queue.length)

/-- Whether the subscription is detached, or will be when notice is taken. -/
def gone (s : Subscription) : Bool :=
  !s.attached || s.cancelled

/-- A subscription after notice is taken of its token. -/
def settled (s : Subscription) : Subscription :=
  if s.cancelled then s.detach else s

variable {capacity : Nat} {s : Subscription}

theorem offerAll_of_detached (h : s.attached = false) (events : List Event) :
    (s.offerAll capacity events).value = s := by
  induction events with
  | nil => rfl
  | cons e rest ih =>
      have hoffer : (s.offer capacity e).value = s := by
        unfold offer wants
        simp only [h, Bool.false_and, Bool.not_false, if_true]
        rfl
      show ((s.offer capacity e).value.offerAll capacity rest).value = s
      rw [hoffer, ih]

/-- What is queued of one event is what fits, and what fits of others after it leaves room for it. -/
theorem offer_of_attached (capacity : Nat) (h : s.attached = true) (e : Event) (rest : List Event) :
    ∃ queued, (s.offer capacity e).value = { s with queue := s.queue ++ queued } ∧
      s.fitting capacity (e :: rest) =
        queued ++ fitting capacity { s with queue := s.queue ++ queued } rest := by
  have hwants : s.wants e = s.filter.passes e := by simp [wants, h]
  unfold offer fitting
  rw [hwants, List.filter_cons]
  by_cases hpasses : s.filter.passes e = true
  · simp only [hpasses, Bool.not_true, Bool.false_eq_true, if_false, if_true]
    by_cases hroom : s.queue.length < capacity
    · have hnext : capacity - s.queue.length = capacity - (s.queue ++ [e]).length + 1 := by
        rw [List.length_append, List.length_singleton]
        omega
      refine ⟨[e], by rw [if_pos hroom]; rfl, ?_⟩
      rw [hnext, List.take_succ_cons]
      rfl
    · have hfull : capacity - s.queue.length = 0 := by omega
      refine ⟨[], by rw [if_neg hroom, List.append_nil], ?_⟩
      simp [hfull]
  · simp only [hpasses, Bool.not_false, if_true, Bool.false_eq_true, if_false]
    exact ⟨[], by rw [List.append_nil]; rfl, by simp⟩

theorem offerAll_of_attached (h : s.attached = true) (events : List Event) :
    (s.offerAll capacity events).value =
      { s with queue := s.queue ++ s.fitting capacity events } := by
  induction events generalizing s with
  | nil =>
      show s = { s with queue := s.queue ++ List.take _ [] }
      rw [List.take_nil, List.append_nil]
  | cons e rest ih =>
      obtain ⟨queued, hoffer, hfitting⟩ := offer_of_attached capacity h e rest
      show ((s.offer capacity e).value.offerAll capacity rest).value = _
      rw [hoffer, hfitting, ← List.append_assoc]
      exact ih h

/-- The steps from one state of a subscription to another: what was handed out came from the head of
the queue, and what was appended went to its end, as far as it is wanted and fits. -/
structure Follows (capacity : Nat) (added : List Event) (handed : Option Event) (ends : Prop)
    (s s' : Subscription) : Prop where
  filter : s'.filter = s.filter
  token : s'.token = s.token
  queue : ∃ delivered, handed.toList ++ s'.queue = s.queue ++ delivered ∧
    (delivered = s.fitting capacity added ∨ delivered = [] ∧ s.gone = true)
  gone : s'.gone = true → s.gone = true ∨ ends

variable {s' : Subscription} {ends : Prop}

/-- Nothing is appended and nothing is handed out. -/
theorem Follows.quiet (hfilter : s'.filter = s.filter) (htoken : s'.token = s.token)
    (hqueue : s'.queue = s.queue) (hgone : s'.gone = true → s.gone = true ∨ ends) :
    Follows capacity [] none ends s s' :=
  ⟨hfilter, htoken, ⟨[], by simp [hqueue], Or.inl (by simp [fitting])⟩, hgone⟩

theorem Follows.refl : Follows capacity [] none ends s s :=
  .quiet rfl rfl rfl Or.inl

theorem gone_settled : s.settled.gone = s.gone := by
  unfold settled gone
  cases hc : s.cancelled with
  | true => simp [detach]
  | false => simp [hc]

theorem attached_settled : s.settled.attached = !s.gone := by
  unfold settled gone
  cases hc : s.cancelled with
  | true => simp [detach]
  | false => simp

theorem filter_settled : s.settled.filter = s.filter := by
  unfold settled
  split <;> rfl

theorem token_settled : s.settled.token = s.token := by
  unfold settled
  split <;> rfl

theorem queue_settled : s.settled.queue = s.queue := by
  unfold settled
  split <;> rfl

/-- Notice may be taken of the token before the step or after it. -/
theorem Follows.of_settled {added : List Event} {handed : Option Event}
    (h : Follows capacity added handed ends s.settled s') :
    Follows capacity added handed ends s s' where
  filter := h.filter.trans filter_settled
  token := h.token.trans token_settled
  queue := by
    have hqueue := h.queue
    unfold fitting at hqueue ⊢
    rwa [queue_settled, filter_settled, gone_settled] at hqueue
  gone := gone_settled (s := s) ▸ h.gone

theorem Follows.settled {added : List Event} {handed : Option Event}
    (h : Follows capacity added handed ends s s') :
    Follows capacity added handed ends s s'.settled where
  filter := filter_settled.trans h.filter
  token := token_settled.trans h.token
  queue := queue_settled.symm ▸ h.queue
  gone := gone_settled.symm ▸ h.gone

end Subscription

namespace Hub

/-- The events that a subscription has not received yet. -/
def queued (h : Hub) (id : Nat) : List Event :=
  (h.subscriptions[id]?.map (·.queue)).getD []

/-- Whether events are offered to a subscription. -/
def offersTo (h : Hub) (id : Nat) : Bool :=
  (h.subscriptions[id]?.map (·.attached)).getD false

variable {h : Hub} {id : Nat} {s : Subscription}

theorem getElem?_updateAll (h : Hub) (f : Subscription → Subscription) (id : Nat) :
    (h.updateAll f).subscriptions[id]? = h.subscriptions[id]?.map f :=
  List.getElem?_map

theorem getElem?_update (h : Hub) (i : Nat) (f : Subscription → Subscription) (id : Nat) :
    (h.update i f).subscriptions[id]? =
      if i = id then h.subscriptions[id]?.map f else h.subscriptions[id]? := by
  show (h.subscriptions.modify i f)[id]? = _
  rw [List.getElem?_modify]
  cases h.subscriptions[id]? <;> split <;> rfl

theorem offerEach_value (capacity : Nat) (events : List Event) (subscriptions : List Subscription) :
    (offerEach capacity events subscriptions).value =
      subscriptions.map fun s => (s.offerAll capacity events).value := by
  induction subscriptions with
  | nil => rfl
  | cons s rest ih =>
      show _ :: (offerEach capacity events rest).value = _
      rw [ih]
      rfl

theorem publish_value (h : Hub) (events : List Event) :
    (h.publish events).value = h.updateAll fun s => (s.offerAll h.capacity events).value := by
  show (⟨h.capacity, (offerEach h.capacity events h.subscriptions).value⟩ : Hub) = _
  rw [offerEach_value]
  rfl

theorem publish_nil (h : Hub) : (h.publish []).value = h := by
  rw [publish_value]
  show (⟨h.capacity, h.subscriptions.map id⟩ : Hub) = h
  rw [List.map_id]

theorem queued_settle (h : Hub) (id : Nat) : h.settle.queued id = h.queued id := by
  unfold queued settle
  rw [getElem?_updateAll, Option.map_map]
  congr 2
  funext s
  exact s.queue_settled

/-! ### Queues keep their length -/

theorem capacity_publish (h : Hub) (events : List Event) :
    (h.publish events).value.capacity = h.capacity :=
  rfl

theorem capacity_take? (h : Hub) (id : Nat) : (h.take? id).2.capacity = h.capacity := by
  unfold take?
  split <;> rfl

theorem capacity_close (h : Hub) (id : Nat) : (h.close id).value.capacity = h.capacity := by
  unfold close
  split <;> rfl

/-! ### One subscription among others -/

section Follows

variable (hs : h.subscriptions[id]? = some s)

include hs

theorem follows_subscribe (filter : EventFilter) (token : String) (cancelled : Bool) :
    (h.subscribe filter token cancelled).value.2.subscriptions[id]? = some s := by
  show (h.subscriptions ++ [_])[id]? = some s
  rw [List.getElem?_append_left (List.getElem?_eq_some_iff.mp hs).1, hs]

theorem follows_publish (ends : Prop) (events : List Event) :
    ∃ s', (h.publish events).value.subscriptions[id]? = some s' ∧
      s.Follows h.capacity events none ends s' := by
  refine ⟨_, by rw [publish_value, getElem?_updateAll, hs, Option.map_some], ?_⟩
  cases hattached : s.attached with
  | true =>
      rw [Subscription.offerAll_of_attached hattached]
      exact ⟨rfl, rfl, ⟨_, rfl, Or.inl rfl⟩, Or.inl⟩
  | false =>
      rw [Subscription.offerAll_of_detached hattached]
      exact ⟨rfl, rfl, ⟨[], by simp, Or.inr ⟨rfl, by simp [Subscription.gone, hattached]⟩⟩, Or.inl⟩

theorem getElem?_settle : h.settle.subscriptions[id]? = some s.settled := by
  rw [settle, getElem?_updateAll, hs]
  rfl

theorem offersTo_settle : h.settle.offersTo id = !s.gone := by
  unfold offersTo
  rw [getElem?_settle hs]
  exact Subscription.attached_settled

theorem queued_eq : h.queued id = s.queue := by
  unfold queued
  rw [hs]
  rfl

theorem queued_publish (hattached : s.attached = true) (events : List Event) :
    (h.publish events).value.queued id = s.queue ++ s.fitting h.capacity events := by
  unfold queued
  rw [publish_value, getElem?_updateAll, hs, Option.map_some,
    Subscription.offerAll_of_attached hattached]
  rfl

/-- Taking hands out the head of the queue. -/
theorem take?_self :
    (h.take? id).1 = s.queue.head? ∧
      (h.take? id).2.subscriptions[id]? = some { s with queue := s.queue.tail } := by
  unfold take?
  rw [hs, Option.map_some]
  cases hq : s.queue with
  | nil =>
      refine ⟨rfl, hs.trans (congrArg some ?_)⟩
      rw [List.tail_nil, ← hq]
  | cons e rest =>
      refine ⟨rfl, ?_⟩
      show (h.update id _).subscriptions[id]? = _
      rw [getElem?_update, if_pos rfl, hs, Option.map_some, hq]
      rfl

theorem take?_other {i : Nat} (hi : i ≠ id) : (h.take? i).2.subscriptions[id]? = some s := by
  unfold take?
  split
  · show (h.update i _).subscriptions[id]? = _
    rw [getElem?_update, if_neg hi, hs]
  · exact hs

theorem follows_take? (ends : Prop) (i : Nat) :
    ∃ s', (h.take? i).2.subscriptions[id]? = some s' ∧
      s.Follows h.capacity [] (if i = id then (h.take? i).1 else none) ends s' := by
  by_cases hi : i = id
  · subst hi
    obtain ⟨hhanded, hs'⟩ := take?_self hs
    refine ⟨_, hs', rfl, rfl, ⟨[], ?_, Or.inl (by simp [Subscription.fitting])⟩, Or.inl⟩
    rw [if_pos rfl, hhanded, List.append_nil]
    cases s.queue <;> rfl
  · rw [if_neg hi]
    exact ⟨s, take?_other hs hi, .refl⟩

end Follows

end Hub

/-- The event that was delivered, if one was. -/
def Delivery.event? : Delivery → Option Event
  | .event e => some e
  | .waiting | .ended => none

namespace Hub

variable {h : Hub} {id : Nat} {s : Subscription} {ends : Prop}

/-- Waiting takes what is queued, or lets cancelled tokens take effect. -/
theorem next_cases (h : Hub) (i : Nat) :
    (h.next i).1.event? = (h.take? i).1 ∧
      ((h.next i).2 = (h.take? i).2 ∨ (h.next i).2 = (h.take? i).2.settle) := by
  unfold next
  split
  · rename_i heq
    rw [heq]
    exact ⟨rfl, Or.inl rfl⟩
  · rename_i heq
    rw [heq]
    refine ⟨?_, Or.inr rfl⟩
    dsimp only
    split <;> rfl

theorem capacity_next (h : Hub) (i : Nat) : (h.next i).2.capacity = h.capacity := by
  rcases (h.next_cases i).2 with heq | heq
  · rw [heq, capacity_take?]
  · rw [heq]
    exact h.capacity_take? i

theorem follows_next (hs : h.subscriptions[id]? = some s) (i : Nat) :
    ∃ s', (h.next i).2.subscriptions[id]? = some s' ∧
      s.Follows h.capacity [] (if i = id then (h.next i).1.event? else none) ends s' := by
  obtain ⟨hevent, hhub⟩ := h.next_cases i
  obtain ⟨s', hs', hfollows⟩ := follows_take? hs ends i
  rw [hevent]
  rcases hhub with heq | heq
  · exact ⟨s', heq ▸ hs', hfollows⟩
  · exact ⟨s'.settled, heq ▸ getElem?_settle hs', hfollows.settled⟩

theorem follows_close (hs : h.subscriptions[id]? = some s) (i : Nat) (hends : i = id → ends) :
    ∃ s', (h.close i).value.subscriptions[id]? = some s' ∧
      s.Follows h.capacity [] none ends s' := by
  unfold close
  split
  · exact ⟨s, hs, .refl⟩
  · show ∃ s', (h.update i _).subscriptions[id]? = some s' ∧ _
    rw [getElem?_update]
    by_cases hi : i = id
    · rw [if_pos hi, hs]
      exact ⟨_, rfl, .quiet rfl rfl rfl fun _ => Or.inr (hends hi)⟩
    · rw [if_neg hi, hs]
      exact ⟨s, rfl, .refl⟩

theorem follows_cancel (hs : h.subscriptions[id]? = some s) (token : String)
    (hends : token = s.token → ends) :
    ∃ s', (h.cancel token).subscriptions[id]? = some s' ∧
      s.Follows h.capacity [] none ends s' := by
  refine ⟨_, by rw [cancel, getElem?_updateAll, hs, Option.map_some], ?_⟩
  split
  · rename_i htoken
    exact .quiet rfl rfl rfl fun _ => Or.inr (hends (beq_iff_eq.mp htoken).symm)
  · exact .refl

theorem follows_settle (hs : h.subscriptions[id]? = some s) :
    ∃ s', h.settle.subscriptions[id]? = some s' ∧ s.Follows h.capacity [] none ends s' :=
  ⟨s.settled, getElem?_settle hs, Subscription.Follows.refl.settled⟩

theorem follows_closeAll (hs : h.subscriptions[id]? = some s) (hends : ends) :
    ∃ s', h.closeAll.subscriptions[id]? = some s' ∧ s.Follows h.capacity [] none ends s' :=
  ⟨s.detach, by rw [closeAll, getElem?_updateAll, hs, Option.map_some],
    .quiet rfl rfl rfl fun _ => Or.inr hends⟩

end Hub

end EventNet
