import EventNet.Engine.Basic
import EventNet.Proofs.Event.Naming
import EventNet.Proofs.Net.Agreement
import EventNet.Proofs.Net.Order

/-!
The state of an aggregate as the replay of its events.

`Setup` is what the engines on one store have in common.  `Setup.fold` is the marking that the events
of a stream lead to from the start of the schema: each event is executed as its action with its payload
as bindings, with no constraints checked, and an event whose action fails changes nothing.  An instance
`At` a position of a history has the marking of the events before it, up to the signs of zeros.
Replaying an event takes it one position further, and so does executing an action and recording its
event at the end of the history: what is recorded is accepted when it is replayed.
-/

namespace EventNet

/-- What the engines on one store have in common. -/
structure Setup where
  schema : Schema
  evaluator : GuardEvaluator
  settings : EngineSettings
  /-- No two actions share an event type. -/
  distinct : (schema.actions.map EventTypes.declared).Nodup
  extensional : evaluator.Extensional
  /-- The values that data states start with are in key order. -/
  ordered : ∀ st ∈ schema.states, st.initialValue.Ordered

namespace Setup

variable (u : Setup)

/-- The event types of the schema. -/
def types : EventTypes :=
  (EventTypes.ofSchema u.schema).value

/-- The net that replays, at some marking. -/
def net (m : Marking) : Net :=
  ⟨u.schema, m, some u.evaluator, false⟩

/-- Execute an event as an action; answers whether it succeeds. -/
def call (m : Marking) (e : Event) : Except Fault Unit × Net :=
  (u.net m).executeWith (u.types.action e.type) (Bindings.ofJson e.data)

/-- The marking after an event, which is that before it if the event fails. -/
def apply (m : Marking) (e : Event) : Marking :=
  match u.call m e with
  | (.ok (), net) => net.marking
  | (.error _, _) => m

/-- The marking after the events of a history. -/
def fold (history : List Event) : Marking :=
  history.foldl u.apply (.initial u.schema)

/-- An event succeeds after the events before it. -/
def Accepts (before : List Event) (e : Event) : Prop :=
  (u.call (u.fold before) e).1 = .ok ()

/-- All constraints hold after the events of a history. -/
def Consistent (history : List Event) : Prop :=
  (u.net (u.fold history)).violations = []

/-! ### Folding -/

theorem fold_append (history : List Event) (e : Event) :
    u.fold (history ++ [e]) = u.apply (u.fold history) e := by
  unfold fold
  rw [List.foldl_append]
  rfl

/-- A call leaves the net that replays, whether it succeeds or not. -/
theorem call_net (m : Marking) (e : Event) : (u.call m e).2 = u.net (u.apply m e) := by
  unfold apply
  rcases (u.net m).executeWith_cases (u.types.action e.type) (Bindings.ofJson e.data) with
    ⟨act, after, -, -, -, heq⟩ | ⟨f, heq⟩
  · rw [show u.call m e = _ from heq]
    rfl
  · rw [show u.call m e = _ from heq]

theorem ordered_fold (history : List Event) : (u.fold history).Ordered := by
  refine List.foldlRecOn history _ (Marking.ordered_initial u.ordered) fun m hm e _ => ?_
  have hcall : (u.call m e).2.marking.Ordered :=
    Net.ordered_executeWith (Bindings.ordered_ofJson e.data) hm
  rwa [call_net] at hcall

/-- Where all states are token states, no event leads to numbers that are not finite. -/
theorem finite_fold_of_tokens (htokens : ∀ st ∈ u.schema.states, st.isToken = true)
    (history : List Event) : (u.fold history).Finite := by
  have hdata : (u.fold history).data = [] := by
    refine List.foldlRecOn (motive := fun m : Marking => m.data = []) history u.apply
      (Marking.data_initial_of_tokens htokens) fun m hm e _ => ?_
    have hcall : (u.call m e).2.marking.data = m.data := Net.data_executeWith_of_tokens htokens
    rw [call_net] at hcall
    exact hcall.trans hm
  unfold Marking.Finite
  rw [hdata]
  exact trivial

end Setup

/-! ### Instances -/

namespace Instance

/-- An instance that has the marking of the first events of a history. -/
structure At (i : Instance) (u : Setup) (history : List Event) (position : Nat) : Prop where
  schema : i.net.schema = u.schema
  evaluator : i.net.evaluator = some u.evaluator
  within : position ≤ history.length
  version : i.version = position - 1
  marking : i.net.marking.plain = (u.fold (history.take position)).plain

variable {i : Instance} {u : Setup} {history later : List Event} {position : Nat}

/-- Events that are added later change nothing. -/
theorem At.extend (h : i.At u history position) (hl : history <+: later) :
    i.At u later position := by
  obtain ⟨rest, rfl⟩ := hl
  refine ⟨h.schema, h.evaluator, ?_, h.version, ?_⟩
  · exact Nat.le_trans h.within (by simp)
  · rw [List.take_append_of_le_length h.within]
    exact h.marking

theorem At.withCheck (h : i.At u history position) (on : Bool) :
    (i.withCheck on).At u history position :=
  ⟨h.schema, h.evaluator, h.within, h.version, h.marking⟩

/-- The net of an instance, with constraints left aside, agrees with the net that replays. -/
theorem At.agree (h : i.At u history position) :
    Net.Agree { i.net with checksConstraints := false } (u.net (u.fold (history.take position))) :=
  ⟨h.schema, h.evaluator, rfl, h.marking⟩

theorem fresh_at (u : Setup) (on : Bool) (history : List Event) :
    (fresh u.schema u.evaluator on).At u history 0 :=
  ⟨rfl, rfl, Nat.zero_le _, rfl, rfl⟩

private theorem extensional_of_net (u : Setup) (m : Marking) :
    ∀ e, (u.net m).evaluator = some e → e.Extensional := by
  intro e he
  obtain rfl : u.evaluator = e := Option.some.inj he
  exact u.extensional

/-- Replaying the next event takes an instance one position further. -/
theorem At.replay (h : i.At u history position) (hoff : i.net.checksConstraints = false)
    {e : Event} (he : history[position]? = some e) (hversion : e.version = position) :
    ((i.replay u.types e).value.At u history (position + 1)) ∧
      (i.replay u.types e).value.net.checksConstraints = false := by
  have hnet : { i.net with checksConstraints := false } = i.net := by
    rw [← hoff]
  have hagree := h.agree
  rw [hnet] at hagree
  have hafter : Net.Agree (i.net.executeWith (u.types.action e.type) (Bindings.ofJson e.data)).2
      (u.net (u.apply (u.fold (history.take position)) e)) := by
    rw [← u.call_net]
    exact (Net.executeWith_agree hagree rfl (extensional_of_net u _) _).net
  obtain ⟨hlt, hget⟩ := List.getElem?_eq_some_iff.mp he
  have htake : history.take (position + 1) = history.take position ++ [e] := by
    rw [List.take_add_one, he]
    rfl
  refine ⟨⟨hafter.schema, hafter.evaluator, hlt, ?_, ?_⟩, hafter.checks⟩
  · show e.version = _
    omega
  · rw [htake, u.fold_append]
    exact hafter.marking

/-- Replaying the events after its position takes an instance to the end of the history. -/
theorem At.replayAll (h : i.At u history position) (hoff : i.net.checksConstraints = false)
    (hnumbered : ∀ (j : Nat) (e : Event), history[j]? = some e → e.version = j) :
    (i.replayAll u.types (history.drop position)).value.At u history history.length := by
  generalize hrest : history.drop position = rest
  induction rest generalizing i position with
  | nil =>
      have hend : position = history.length :=
        Nat.le_antisymm h.within (List.drop_eq_nil_iff.mp hrest)
      rw [← hend]
      exact h
  | cons e rest ih =>
      have he : history[position]? = some e := by
        rw [← List.head?_drop, hrest]
        rfl
      have hdrop : history.drop (position + 1) = rest := by
        rw [← List.tail_drop, hrest]
        rfl
      obtain ⟨hnext, hoff'⟩ := h.replay hoff he (hnumbered position e he)
      exact ih hnext hoff' hdrop

/-- **An action executed at the end of a history is accepted when its event is replayed there**, leads
to the same marking, and leaves no constraint violated if the instance checks them. -/
theorem At.executed (h : i.At u history history.length) {action : String} {b : Bindings}
    (hb : b.Regular) {net : Net} (hexec : i.net.executeWith action b = (.ok (), net)) {e : Event}
    (htype : e.type = u.types.eventType action) (hdata : e.data = b.toJson) :
    u.Accepts history e ∧ (i.net.checksConstraints = true → u.Consistent (history ++ [e])) ∧
      Instance.At { i with net, version := history.length } u (history ++ [e])
        (history.length + 1) := by
  rcases i.net.executeWith_cases action b with ⟨act, after, hact, -, -, heq⟩ | ⟨f, heq⟩
  swap
  · rw [heq] at hexec
    exact absurd (congrArg Prod.fst hexec) (by simp)
  obtain rfl : net = { i.net with marking := after } :=
    (congrArg Prod.snd (hexec.symm.trans heq) : _)
  obtain ⟨hunchecked, hsound⟩ := Net.executeWith_unchecked heq
  have hagree := h.agree
  rw [List.take_length] at hagree
  -- the replay runs the same action with the bindings in their plain form
  have haction : u.types.action e.type = action := by
    rw [htype]
    exact EventTypes.action_eventType u.distinct (h.schema ▸ hact)
  have hpayload : b.plain = (Bindings.ofJson e.data).plain := by
    rw [hdata, Bindings.ofJson_toJson hb, Bindings.plain_plain]
  have hcall := Net.executeWith_agree hagree hpayload (extensional_of_net u _) action
  rw [hunchecked, ← haction] at hcall
  have hafter : Net.Agree { i.net with marking := after, checksConstraints := false }
      (u.net (u.apply (u.fold history) e)) := by
    rw [← u.call_net]
    exact hcall.net
  refine ⟨hcall.outcome.symm, fun hc => ?_, h.schema, h.evaluator, by simp, ?_, ?_⟩
  · unfold Setup.Consistent
    rw [u.fold_append, ← hafter.violations]
    exact hsound hc
  · show (history.length : Int) = ((history.length + 1 : Nat) : Int) - 1
    omega
  · rw [← List.length_singleton, ← List.length_append, List.take_length, u.fold_append]
    exact hafter.marking

end Instance

/-! ### Saved states -/

/-- A state that was saved with the marking of the first events of a history. -/
structure StateSnapshot.TakenAt (s : StateSnapshot) (u : Setup) (history : List Event)
    (position : Nat) : Prop where
  within : position ≤ history.length
  version : s.version = position - 1
  state : ∃ m : Marking, s.state = m.toJson ∧ m.plain = (u.fold (history.take position)).plain

/-- A state that was saved in numbers that JSON has. -/
structure StateSnapshot.SavedAt (s : StateSnapshot) (u : Setup) (history : List Event)
    (position : Nat) : Prop extends s.TakenAt u history position where
  finite : (u.fold (history.take position)).Finite

namespace StateSnapshot

variable {s : StateSnapshot} {u : Setup} {history later : List Event} {position : Nat}

theorem SavedAt.extend (h : s.SavedAt u history position) (hl : history <+: later) :
    s.SavedAt u later position := by
  obtain ⟨rest, rfl⟩ := hl
  have htake : (history ++ rest).take position = history.take position :=
    List.take_append_of_le_length h.within
  exact ⟨⟨Nat.le_trans h.within (by simp), h.version, htake ▸ h.state⟩, htake ▸ h.finite⟩

/-- A saved state is read as the marking it was saved from, or is not read at all because a count
does not fit. -/
theorem SavedAt.read (h : s.SavedAt u history position) :
    Marking.ofJson? s.state = none ∨
      ∃ m, Marking.ofJson? s.state = some m ∧
        m.plain = (u.fold (history.take position)).plain := by
  obtain ⟨m, hstate, hm⟩ := h.state
  by_cases hc : m.CountsFit
  · have hfinite := Marking.finite_of_plain_eq hm h.finite
    have hordered := Marking.ordered_of_plain_eq hm (u.ordered_fold _)
    refine Or.inr ⟨m.plain, ?_, by rw [Marking.plain_plain, hm]⟩
    rw [hstate, Marking.ofJson?_toJson hfinite hordered hc]
  · exact Or.inl (by rw [hstate, Marking.ofJson?_toJson_eq_none hc])

end StateSnapshot

end EventNet
