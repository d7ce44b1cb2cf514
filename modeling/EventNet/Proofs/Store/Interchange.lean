import EventNet.Proofs.Store.Backends
import Mathlib

/-!
Sequences of calls to a store.

`performAll` makes one call after the other and collects what is answered.  Calls on a store are
compared with the same calls on the ledger it holds: by the lemmas about single calls every answer is
that of the ledger, and since identities are distinct a database never refuses one that is taken.
Stores of different kinds are then compared through the ledger.
-/

namespace EventNet

/-- A call to a store. -/
inductive StoreOp where
  | append (stream : String) (expected : Int) (batch : List Event)
  | read (stream : String) (start : Int)
  | readAll (f : EventFilter)
  | streamVersion (stream : String)
  | saveSnapshot (s : StateSnapshot)
  | loadSnapshot (stream : String)
  | deleteSnapshot (stream : String)
  | close

/-- What a call is answered with. -/
inductive Reply where
  | version (r : Except Fault Int)
  | events (r : Except Fault (List Event))
  | saved (r : Except Fault Unit)
  | snapshot (r : Except Fault (Option StateSnapshot))
  | deleted (r : Except Fault Bool)
  | closed

namespace StoreOp

/-- The events that a call brings in. -/
def batch : StoreOp → List Event
  | .append _ _ batch => batch
  | _ => []

/-- A call of plain contents: events and saved states that lose nothing in rows, and no bounds on
times. -/
def Admissible : StoreOp → Prop
  | .append _ _ batch => ∀ e ∈ batch, e.Storable
  | .readAll f => f.fromTime = none ∧ f.toTime = none
  | .saveSnapshot s =>
    ∃ time stream version state, s = .new time stream version state ∧ time.Plain ∧ state.Kept
  | _ => True

end StoreOp

namespace Store

/-- Make a call. -/
def perform (s : Store) : StoreOp → Reply × Store
  | .append stream expected batch =>
    let r := (s.append stream expected batch).value
    (.version r.1, r.2)
  | .read stream start =>
    let r := (s.read stream start).value
    (.events r.1, r.2)
  | .readAll f =>
    let r := (s.readAll f).value
    (.events r.1, r.2)
  | .streamVersion stream =>
    let r := (s.streamVersion stream).value
    (.version r.1, r.2)
  | .saveSnapshot x =>
    let r := (s.saveSnapshot x).value
    (.saved r.1, r.2)
  | .loadSnapshot stream =>
    let r := (s.loadSnapshot stream).value
    (.snapshot r.1, r.2)
  | .deleteSnapshot stream =>
    let r := (s.deleteSnapshot stream).value
    (.deleted r.1, r.2)
  | .close => (.closed, s.close.value)

/-- Make calls one after the other. -/
def performAll (s : Store) : List StoreOp → List Reply
  | [] => []
  | op :: rest => (s.perform op).1 :: (s.perform op).2.performAll rest

end Store

namespace Ledger

/-- Make a call on a ledger. -/
def perform (l : Ledger) : StoreOp → Reply × Ledger
  | .append stream expected batch =>
    let r := l.append stream expected batch
    (.version r.1, r.2)
  | .read stream start => (.events (l.read stream start), l)
  | .readAll f => (.events (l.readAll f), l)
  | .streamVersion stream => (.version (l.answer (l.version stream)), l)
  | .saveSnapshot x =>
    let r := l.saveSnapshot x
    (.saved r.1, r.2)
  | .loadSnapshot stream => (.snapshot (l.loadSnapshot stream), l)
  | .deleteSnapshot stream =>
    let r := l.deleteSnapshot stream
    (.deleted r.1, r.2)
  | .close => (.closed, l.close)

/-- Make calls one after the other on a ledger. -/
def performAll (l : Ledger) : List StoreOp → List Reply
  | [] => []
  | op :: rest => (l.perform op).1 :: (l.perform op).2.performAll rest

/-- The identities of the log after a call are among those of the log and the call. -/
theorem ids_perform (l : Ledger) (op : StoreOp) :
    ((l.perform op).2.log.map (·.id)).Sublist ((l.log ++ op.batch).map (·.id)) := by
  have hsame : (l.log.map (·.id)).Sublist ((l.log ++ op.batch).map (·.id)) :=
    (List.sublist_append_left ..).map _
  cases op with
  | append stream expected batch =>
      show ((l.append stream expected batch).2.log.map (·.id)).Sublist _
      rcases l.append_cases stream expected batch with ⟨-, -, heq⟩ | ⟨f, heq⟩
      · rw [heq]
        exact l.map_id_extend stream batch ▸ List.Sublist.refl _
      · rw [heq]
        exact hsame
  | saveSnapshot x =>
      show ((l.saveSnapshot x).2.log.map (·.id)).Sublist _
      unfold saveSnapshot
      cases l.closed <;> exact hsame
  | deleteSnapshot stream =>
      show ((l.deleteSnapshot stream).2.log.map (·.id)).Sublist _
      unfold deleteSnapshot
      cases l.closed <;> exact hsame
  | _ => exact hsame

end Ledger

namespace Store

variable {s : Store} {l : Ledger}

/-- One call: the store answers as its ledger, and holds what becomes of the ledger. -/
theorem Holds.perform (h : s.Holds l) {op : StoreOp} (hop : op.Admissible)
    (hfresh : l.Fresh op.batch) :
    (s.perform op).1 = (l.perform op).1 ∧ (s.perform op).2.Holds (l.perform op).2 := by
  cases op with
  | append stream expected batch =>
      rcases h.append stream expected fun e he => s.keeps_of_storable (hop e he) with
        ⟨hr, hl⟩ | ⟨htaken, -⟩
      · exact ⟨congrArg Reply.version hr, hl⟩
      · exact absurd hfresh htaken
  | read stream start => exact (h.read stream start).imp_left (congrArg Reply.events)
  | readAll f => exact (h.readAll hop.1 hop.2).imp_left (congrArg Reply.events)
  | streamVersion stream => exact (h.streamVersion stream).imp_left (congrArg Reply.version)
  | saveSnapshot x =>
      obtain ⟨time, stream, version, state, rfl, ht, hs⟩ := hop
      have hx := s.keepsState_of_stored (StateSnapshot.stored_new ht hs stream version)
      exact (h.saveSnapshot hx).imp_left (congrArg Reply.saved)
  | loadSnapshot stream => exact (h.loadSnapshot stream).imp_left (congrArg Reply.snapshot)
  | deleteSnapshot stream => exact (h.deleteSnapshot stream).imp_left (congrArg Reply.deleted)
  | close => exact ⟨rfl, h.close⟩

/-- A sequence of calls: the store answers as its ledger. -/
theorem Holds.performAll (h : s.Holds l) {ops : List StoreOp} (hops : ∀ op ∈ ops, op.Admissible)
    (hfresh : l.Fresh (ops.flatMap StoreOp.batch)) : s.performAll ops = l.performAll ops := by
  induction ops generalizing s l with
  | nil => rfl
  | cons op rest ih =>
      have hids : ((l.log ++ op.batch) ++ rest.flatMap StoreOp.batch).map (·.id) =
          (l.log ++ (op :: rest).flatMap StoreOp.batch).map (·.id) := by
        rw [List.flatMap_cons, List.append_assoc]
      obtain ⟨hr, hl⟩ := h.perform (hops op List.mem_cons_self) (by
        refine List.Nodup.sublist ?_ hfresh
        rw [← hids]
        exact (List.sublist_append_left ..).map _)
      have hrest : (l.perform op).2.Fresh (rest.flatMap StoreOp.batch) := by
        refine List.Nodup.sublist ?_ hfresh
        rw [← hids, List.map_append, List.map_append]
        exact (l.ids_perform op).append_right _
      unfold Store.performAll Ledger.performAll
      rw [hr, ih hl (fun x hx => hops x (List.mem_cons_of_mem _ hx)) hrest]

end Store

/--
**The two kinds of stores answer every sequence of calls alike.**

Identities of events are distinct, and what is stored is of the kind that rows keep.
-/
theorem backends_answer_alike (buffer buffer' : Nat) (ops : List StoreOp)
    (hops : ∀ op ∈ ops, op.Admissible)
    (hids : ((ops.flatMap StoreOp.batch).map (·.id)).Nodup) :
    (Store.memory (.new buffer)).performAll ops =
      (Store.database (.new buffer') .new).performAll ops := by
  rw [(Store.holds_memory_new buffer).performAll hops hids,
    (Store.holds_database_new buffer').performAll hops hids]

/-- An account that is opened, saved, read back and closed to further calls. -/
def accountOps : List StoreOp :=
  let opened : Event :=
    ⟨⟨1⟩, "", "Opened", noStream, ⟨1700000000, 123456789⟩, .obj [("owner", .str "ann")],
      some ⟨some "c1", none, none, .obj [("ip", .null)]⟩⟩
  [.append "account" (-1) [opened], .append "account" (-1) [{ opened with id := ⟨2⟩ }],
    .saveSnapshot (.new ⟨1700000001, 999⟩ "account" 0 (.obj [("balance", .int 0)])),
    .read "account" (-7), .loadSnapshot "account", .close, .streamVersion "account"]

theorem accountOps_answered_alike :
    (∀ op ∈ accountOps, op.Admissible) ∧
    ((accountOps.flatMap StoreOp.batch).map (·.id)).Nodup ∧
    (Store.memory (.new 1)).performAll accountOps =
      (Store.database (.new 1) .new).performAll accountOps := by
  have howner : (Json.obj [("owner", .str "ann")]).Kept :=
    ⟨by cbv, show Json.ofText? _ = _ by cbv⟩
  have hmetadata : (Metadata.mk (some "c1") none none (.obj [("ip", .null)])).Kept :=
    ⟨by cbv, show Json.ofText? _ = _ by cbv⟩
  have hbalance : (Json.obj [("balance", .int 0)]).Kept :=
    ⟨by cbv, show Json.ofText? _ = _ by cbv⟩
  have htime : Instant.Plain ⟨1700000000, 123456789⟩ := ⟨by decide, by decide⟩
  have hevent : ∀ id : EventId, id.bits < 2 ^ 128 → Event.Storable
      ⟨id, "", "Opened", noStream, ⟨1700000000, 123456789⟩, .obj [("owner", .str "ann")],
        some ⟨some "c1", none, none, .obj [("ip", .null)]⟩⟩ := fun id hid =>
    ⟨hid, htime, howner, fun m hm => Option.some.inj hm ▸ hmetadata⟩
  have hops : ∀ op ∈ accountOps, op.Admissible := by
    intro op hop
    simp only [accountOps, List.mem_cons, List.not_mem_nil, or_false] at hop
    rcases hop with rfl | rfl | rfl | rfl | rfl | rfl | rfl
    · intro e he
      rw [List.mem_singleton.mp he]
      exact hevent ⟨1⟩ (by decide)
    · intro e he
      rw [List.mem_singleton.mp he]
      exact hevent ⟨2⟩ (by decide)
    · exact ⟨_, _, _, _, rfl, ⟨by decide, by decide⟩, hbalance⟩
    all_goals exact trivial
  have hids : ((accountOps.flatMap StoreOp.batch).map (·.id)).Nodup := by decide
  exact ⟨hops, hids, backends_answer_alike 1 1 accountOps hops hids⟩

end EventNet
