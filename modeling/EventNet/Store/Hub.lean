import EventNet.Event.Basic
import EventNet.Telemetry.Signal
import EventNet.Value.Text

/-!
Live delivery of events to subscribers.

A hub keeps every subscription made on it, in the order of subscribing; the identity of a subscription
is its place in that order.  A subscription has a queue of bounded length: an event that finds the
queue full is lost for this subscription alone, so publishing never waits.  Only an attached
subscription is offered events.  It is detached when its owner closes it, when the hub closes all, or
some time after its token was cancelled, namely when `settle` takes notice.  What is queued by then
can still be received.
-/

namespace EventNet

/-- One subscriber's end of the delivery. -/
structure Subscription where
  filter : EventFilter
  /-- The name of the token that cancels the subscription. -/
  token : String
  /-- Events delivered and not yet received, the oldest first. -/
  queue : List Event
  /-- Whether events are still offered. -/
  attached : Bool
  cancelled : Bool
  /-- Whether the owner has closed the subscription. -/
  closed : Bool

/-- What asking for the next event yields. -/
inductive Delivery where
  | event (e : Event)
  /-- Nothing is queued, and something may still come. -/
  | waiting
  /-- Nothing is queued and nothing will come. -/
  | ended

namespace Subscription

/-- Whether an event is for this subscription. -/
def wants (s : Subscription) (e : Event) : Bool :=
  s.attached && s.filter.passes e

/-- Queue an event, unless the queue is full. -/
def offer (capacity : Nat) (s : Subscription) (e : Event) : Traced Subscription :=
  if !s.wants e then .silent s
  else if s.queue.length < capacity then .silent { s with queue := s.queue ++ [e] }
  else
    ⟨s, [.count .subscriptionDropped [] 1, .log .debug "subscriber queue full, event dropped"]⟩

/-- Queue events in order. -/
def offerAll (capacity : Nat) (s : Subscription) : List Event → Traced Subscription
  | [] => .silent s
  | e :: rest => (s.offer capacity e).andThen fun s => offerAll capacity s rest

/-- Offer no more events. -/
def detach (s : Subscription) : Subscription :=
  { s with attached := false }

/-- Whether the owner is told that the subscription is over. -/
def isOver (s : Subscription) : Bool :=
  s.closed || s.cancelled

end Subscription

/-- The subscriptions of a store. -/
structure Hub where
  /-- How many events a queue holds. -/
  capacity : Nat
  subscriptions : List Subscription

namespace Hub

/-- The queue length unless another is asked for. -/
def defaultBuffer : Nat := 256

/-- A hub without subscriptions.  A queue holds at least one event. -/
def new (buffer : Nat) : Hub :=
  ⟨max buffer 1, []⟩

/-- Subscribe under a token, which may be cancelled already; answers the identity. -/
def subscribe (h : Hub) (filter : EventFilter) (token : String) (cancelled : Bool) :
    Traced (Nat × Hub) :=
  ⟨(h.subscriptions.length,
    { h with subscriptions := h.subscriptions ++ [⟨filter, token, [], true, cancelled, false⟩] }),
   [.log .debug "subscription opened"]⟩

/-- Offer events to each of some subscriptions. -/
def offerEach (capacity : Nat) (events : List Event) :
    List Subscription → Traced (List Subscription)
  | [] => .silent []
  | s :: rest =>
    (s.offerAll capacity events).andThen fun s =>
      (offerEach capacity events rest).andThen fun rest => .silent (s :: rest)

/-- Offer events to every subscription. -/
def publish (h : Hub) (events : List Event) : Traced Hub :=
  (offerEach h.capacity events h.subscriptions).andThen fun subscriptions =>
    .silent { h with subscriptions }

/-- Change one subscription. -/
def update (h : Hub) (id : Nat) (f : Subscription → Subscription) : Hub :=
  { h with subscriptions := h.subscriptions.modify id f }

/-- Change all subscriptions. -/
def updateAll (h : Hub) (f : Subscription → Subscription) : Hub :=
  { h with subscriptions := h.subscriptions.map f }

/-- Detach the subscriptions whose token was cancelled. -/
def settle (h : Hub) : Hub :=
  h.updateAll fun s => if s.cancelled then s.detach else s

/-- Cancel a token. -/
def cancel (h : Hub) (token : String) : Hub :=
  h.updateAll fun s => if s.token == token then { s with cancelled := true } else s

/-- Detach every subscription. -/
def closeAll (h : Hub) : Hub :=
  h.updateAll Subscription.detach

/-- Take the oldest queued event. -/
def take? (h : Hub) (id : Nat) : Option Event × Hub :=
  match h.subscriptions[id]?.map (·.queue) with
  | some (e :: _) => (some e, h.update id fun s => { s with queue := s.queue.drop 1 })
  | _ => (none, h)

/-- Wait for the next event as long as one may come; cancelled tokens take effect meanwhile. -/
def next (h : Hub) (id : Nat) : Delivery × Hub :=
  match h.take? id with
  | (some e, h) => (.event e, h)
  | (none, h) =>
    let h := h.settle
    (if (h.subscriptions[id]?.map (·.attached)).getD false then .waiting else .ended, h)

/-- Take all queued events. -/
def drain (h : Hub) (id : Nat) : List Event × Hub :=
  ((h.subscriptions[id]?.map (·.queue)).getD [], h.update id fun s => { s with queue := [] })

/-- Close a subscription; a second time changes nothing. -/
def close (h : Hub) (id : Nat) : Traced Hub :=
  if (h.subscriptions[id]?.map (·.closed)).getD true then .silent h
  else ⟨h.update id fun s => { s.detach with closed := true },
    [.log .debug "subscription closed"]⟩

/-- Whether the owner of a subscription is told that it is over. -/
def isOver (h : Hub) (id : Nat) : Bool :=
  (h.subscriptions[id]?.map (·.isOver)).getD true

/-- The number of attached subscriptions. -/
def size (h : Hub) : Nat :=
  h.subscriptions.countP (·.attached)

/-- Whether no subscription is attached. -/
def isEmpty (h : Hub) : Bool :=
  h.size == 0

/-- The form of a hub shown for inspection. -/
def inspect (h : Hub) : String :=
  "SubscriptionHub \x7b subscribers: " ++ toString h.size ++ ", buffer: " ++ toString h.capacity ++
    " \x7d"

/-- The form of a subscription shown for inspection. -/
def inspectOne (h : Hub) (id : Nat) : String :=
  "Subscription \x7b id: " ++ toString id ++ ", closed: " ++
    Value.boolText ((h.subscriptions[id]?.map (·.closed)).getD true) ++ " \x7d"

end Hub

end EventNet
