import EventNet.Net.Firing
import EventNet.Proofs.Net.Schema

/-!
What a call of a net can do.

A call either leaves the net as it was or is a firing: the action was enabled, its arcs were gone
through without a failure, and, where constraints are checked, all of them hold afterwards.  `Fires`
says this once; everything known about calls is read off it.  Going through arcs is taken apart the
same way: one equation for each kind of arc, and `Arc.Did` for what an arc of either kind has done.
-/

namespace EventNet

/-! ### The starting marking -/

namespace Marking

variable {s : Schema} {st : StateDecl}

/-- A marking in which a state has what it starts with. -/
def declare (m : Marking) (st : StateDecl) : Marking :=
  if st.isToken then { m with tokens := m.tokens.insert st.id st.initialTokens }
  else { m with data := m.data.insert st.id st.initialValue }

theorem initial_eq (s : Schema) : initial s = s.states.foldl declare empty :=
  rfl

/-- What holds without entries and is kept by every declaration holds of the starting marking. -/
theorem initial_induction {P : Marking → Prop} (hempty : P .empty)
    (htoken : ∀ m, ∀ st ∈ s.states, st.isToken = true → P m →
      P { m with tokens := m.tokens.insert st.id st.initialTokens })
    (hdata : ∀ m, ∀ st ∈ s.states, st.isToken ≠ true → P m →
      P { m with data := m.data.insert st.id st.initialValue }) : P (.initial s) := by
  unfold initial
  refine List.foldlRecOn s.states _ hempty fun m hm st hst => ?_
  by_cases ht : st.isToken = true
  · rw [if_pos ht]
    exact htoken m st hst ht hm
  · rw [if_neg ht]
    exact hdata m st hst ht hm

theorem value?_declare_self (hdata : st.isToken ≠ true) (m : Marking) :
    (m.declare st).value? st.id = some st.initialValue := by
  unfold declare
  rw [if_neg hdata]
  exact Dict.get?_insert_self m.data _ _

theorem value?_declare_of_ne {other : StateDecl} (h : other.id ≠ st.id) (m : Marking) :
    (m.declare other).value? st.id = m.value? st.id := by
  unfold declare
  split
  · rfl
  · exact Dict.get?_insert_of_ne m.data _ h

/-- Declarations leave a data state with the value it starts with, if it has it or is among them. -/
private theorem value?_declarations (hdata : st.isToken ≠ true) :
    ∀ (states : List StateDecl) (m : Marking), (∀ other ∈ states, other.id = st.id → other = st) →
      m.value? st.id = some st.initialValue ∨ st ∈ states →
      (states.foldl declare m).value? st.id = some st.initialValue := by
  intro states
  induction states with
  | nil =>
      intro m _ hm
      exact hm.resolve_right List.not_mem_nil
  | cons first rest ih =>
      intro m hunique hm
      refine ih _ (fun other hother => hunique other (List.mem_cons_of_mem first hother)) ?_
      by_cases hfirst : first = st
      · subst hfirst
        exact Or.inl (value?_declare_self hdata m)
      · have hid : first.id ≠ st.id := fun heq => hfirst (hunique first List.mem_cons_self heq)
        rcases hm with hvalue | hmem
        · exact Or.inl ((value?_declare_of_ne hid m).trans hvalue)
        · exact Or.inr ((List.mem_cons.mp hmem).resolve_left (Ne.symm hfirst))

/-- A schema gives a data state the value it starts with. -/
theorem value?_initial (hst : st ∈ s.states) (hdata : st.isToken ≠ true) :
    (initial s).value? st.id = some st.initialValue := by
  have hunique : ∀ other ∈ s.states, other.id = st.id → other = st := fun other hother hid =>
    List.inj_on_of_nodup_map s.wellFormed.states hother hst hid
  exact value?_declarations hdata s.states .empty hunique (Or.inr hst)

end Marking

/-! ### Running updates -/

namespace Update

variable {α β : Type}

theorem run_bind (u : Update α) (f : α → Update β) (m : Marking) :
    (u >>= f).run m =
      match u.run m with
      | (.ok a, after) => (f a).run after
      | (.error e, after) => (.error e, after) := by
  show (ExceptT.bindCont f (u m).1) (u m).2 = match u m with
    | (.ok a, after) => (f a).run after
    | (.error e, after) => (.error e, after)
  rcases u m with ⟨e | a, after⟩ <;> rfl

end Update

/-- What an arc between an action and the state `id` has done to a marking if it has not failed.  An arc
with a token state moves a number of tokens, or none at all where it only tests for them.  An arc with a
data state needs bindings, and then changes the value of the state or leaves it. -/
inductive Arc.Did (s : Schema) (a : Arc) (id : String) (moved : Option Int) (add : Bool)
    (bindings : Option Bindings) (m : Marking) : Marking → Prop
  | loose (hstate : s.state? id = none) : Did s a id moved add bindings m m
  | tested (st : StateDecl) (hstate : s.state? id = some st) (htoken : st.isToken = true)
      (hmoved : moved = none) : Did s a id moved add bindings m m
  | counted (st : StateDecl) (n : Int) (hstate : s.state? id = some st) (htoken : st.isToken = true)
      (hmoved : moved = some n) : Did s a id moved add bindings m (m.addTokens id n)
  | unbound (st : StateDecl) (hstate : s.state? id = some st) (hdata : st.isToken = false)
      (hbindings : bindings = none) : Did s a id moved add bindings m m
  | kept (st : StateDecl) (b : Bindings) (hstate : s.state? id = some st)
      (hdata : st.isToken = false) (hbindings : bindings = some b)
      (hvalue : a.transformed st b add (m.value? st.id) = .ok none) :
      Did s a id moved add bindings m m
  | changed (st : StateDecl) (b : Bindings) (v : Value) (hstate : s.state? id = some st)
      (hdata : st.isToken = false) (hbindings : bindings = some b)
      (hvalue : a.transformed st b add (m.value? st.id) = .ok (some v)) :
      Did s a id moved add bindings m (m.setValue st.id v)

namespace Net

variable {s : Schema} {action : String} {m after : Marking} {a : Arc} {st : StateDecl}

theorem run_transform (bindings : Bindings) (add : Bool) :
    (transform action st a bindings add).run m =
      match a.transformed st bindings add (m.value? st.id) with
      | .error f => (.error (.invalidBinding action f), m)
      | .ok none => (.ok (), m)
      | .ok (some v) => (.ok (), m.setValue st.id v) := by
  unfold transform
  rw [Update.run_bind]
  show (ExceptT.run (match a.transformed st bindings add (m.value? st.id) with
    | .error f => throw (.invalidBinding action f)
    | .ok none => pure ()
    | .ok (some v) => set (m.setValue st.id v) : Update Unit)) m = _
  split <;> rfl

theorem run_takeInput (bindings : Option Bindings) :
    (takeInput s action bindings a).run m =
      match s.state? a.source with
      | none => (.ok (), m)
      | some st =>
        if st.isToken then (.ok (), if a.inhibitor then m else m.addTokens st.id (-a.weight))
        else match bindings with
          | none => (.ok (), m)
          | some b => (transform action st a b false).run m := by
  unfold takeInput
  cases s.state? a.source with
  | none => rfl
  | some st =>
      simp only
      by_cases ht : st.isToken = true
      · rw [if_pos ht, if_pos ht]
        by_cases hi : a.inhibitor = true
        · rw [if_pos hi, if_pos hi]
          rfl
        · rw [if_neg hi, if_neg hi]
          rfl
      · rw [if_neg ht, if_neg ht]
        cases bindings <;> rfl

theorem run_giveOutput (bindings : Option Bindings) :
    (giveOutput s action bindings a).run m =
      match s.state? a.target with
      | none => (.ok (), m)
      | some st =>
        if st.isToken then (.ok (), m.addTokens st.id a.weight)
        else match bindings with
          | none => (.ok (), m)
          | some b => (transform action st a b true).run m := by
  unfold giveOutput
  cases s.state? a.target with
  | none => rfl
  | some st =>
      simp only
      by_cases ht : st.isToken = true
      · rw [if_pos ht, if_pos ht]
        rfl
      · rw [if_neg ht, if_neg ht]
        cases bindings <;> rfl

theorem did_of_transform {b : Bindings} {add : Bool} {id : String} {moved : Option Int}
    (hstate : s.state? id = some st) (hdata : st.isToken = false)
    (h : (transform action st a b add).run m = (.ok (), after)) :
    a.Did s id moved add (some b) m after := by
  rw [run_transform] at h
  split at h
  · exact absurd (Prod.mk.inj h).1 (by simp)
  · rename_i hnone
    obtain rfl := (Prod.mk.inj h).2
    exact .kept st b hstate hdata rfl hnone
  · rename_i v hv
    obtain rfl := (Prod.mk.inj h).2
    exact .changed st b v hstate hdata rfl hv

theorem did_of_takeInput {bindings : Option Bindings}
    (h : (takeInput s action bindings a).run m = (.ok (), after)) :
    a.Did s a.source (if a.inhibitor then none else some (-a.weight)) false bindings m after := by
  rw [run_takeInput] at h
  cases hst : s.state? a.source with
  | none =>
      simp only [hst] at h
      obtain rfl := (Prod.mk.inj h).2
      exact .loose hst
  | some st =>
      simp only [hst] at h
      by_cases ht : st.isToken = true
      · rw [if_pos ht] at h
        obtain rfl := (Prod.mk.inj h).2
        by_cases hi : a.inhibitor = true
        · rw [if_pos hi, if_pos hi]
          exact .tested st hst ht rfl
        · rw [if_neg hi, if_neg hi, (Schema.state?_some hst).2]
          exact .counted st _ hst ht rfl
      · rw [if_neg ht] at h
        have hdata : st.isToken = false := by simpa using ht
        cases bindings with
        | none =>
            obtain rfl := (Prod.mk.inj h).2
            exact .unbound st hst hdata rfl
        | some b => exact did_of_transform hst hdata h

theorem did_of_giveOutput {bindings : Option Bindings}
    (h : (giveOutput s action bindings a).run m = (.ok (), after)) :
    a.Did s a.target (some a.weight) true bindings m after := by
  rw [run_giveOutput] at h
  cases hst : s.state? a.target with
  | none =>
      simp only [hst] at h
      obtain rfl := (Prod.mk.inj h).2
      exact .loose hst
  | some st =>
      simp only [hst] at h
      by_cases ht : st.isToken = true
      · rw [if_pos ht] at h
        obtain rfl := (Prod.mk.inj h).2
        rw [(Schema.state?_some hst).2]
        exact .counted st _ hst ht rfl
      · rw [if_neg ht] at h
        have hdata : st.isToken = false := by simpa using ht
        cases bindings with
        | none =>
            obtain rfl := (Prod.mk.inj h).2
            exact .unbound st hst hdata rfl
        | some b => exact did_of_transform hst hdata h

theorem run_eachArc_cons (act : Arc → Update Unit) (rest : List Arc) :
    (eachArc act (a :: rest)).run m =
      match (act a).run m with
      | (.ok (), after) => (eachArc act rest).run after
      | (.error f, after) => (.error f, after) := by
  rw [eachArc, Update.run_bind]
  rcases (act a).run m with ⟨f | ⟨⟩, after⟩ <;> rfl

theorem run_move (bindings : Option Bindings) :
    (move s action bindings).run m =
      match (eachArc (takeInput s action bindings) (s.inputs action)).run m with
      | (.ok (), after) => (eachArc (giveOutput s action bindings) (s.outputs action)).run after
      | (.error f, after) => (.error f, after) := by
  rw [move, Update.run_bind]
  rcases (eachArc (takeInput s action bindings) (s.inputs action)).run m with ⟨f | ⟨⟩, after⟩ <;> rfl

/-- What every arc of a list keeps, the list keeps. -/
theorem eachArc_invariant {act : Arc → Update Unit} {P : Marking → Prop} :
    ∀ (arcs : List Arc)
      (_ : ∀ a ∈ arcs, ∀ m after, P m → (act a).run m = (.ok (), after) → P after) (m : Marking),
      P m → (eachArc act arcs).run m = (.ok (), after) → P after := by
  intro arcs
  induction arcs with
  | nil =>
      intro _ m hm h
      exact (Prod.mk.inj h).2 ▸ hm
  | cons a rest ih =>
      intro hact m hm h
      rw [run_eachArc_cons] at h
      split at h
      · rename_i mid hmid
        have hhead : P mid := hact a List.mem_cons_self m mid hm hmid
        exact ih (fun b hb => hact b (List.mem_cons_of_mem a hb)) mid hhead h
      · exact absurd (Prod.mk.inj h).1 (by simp)

/-- What every input and every output arc keeps, an action keeps. -/
theorem move_invariant {bindings : Option Bindings} {P : Marking → Prop}
    (htake : ∀ a m after, P m → (takeInput s action bindings a).run m = (.ok (), after) → P after)
    (hgive : ∀ a m after, P m → (giveOutput s action bindings a).run m = (.ok (), after) → P after)
    (hm : P m) (h : (move s action bindings).run m = (.ok (), after)) : P after := by
  rw [run_move] at h
  split at h
  · rename_i mid hmid
    have htaken : P mid := eachArc_invariant _ (fun a _ => htake a) m hm hmid
    exact eachArc_invariant _ (fun a _ => hgive a) mid htaken h
  · exact absurd (Prod.mk.inj h).1 (by simp)

/-! ### Two runs side by side -/

/-- Two runs that end alike, on related markings. -/
structure Lockstep (R : Marking → Marking → Prop) (r t : Except Fault Unit × Marking) : Prop where
  outcome : r.1 = t.1
  marking : R r.2 t.2

section

variable {R : Marking → Marking → Prop} {n : Marking}

/-- Where arcs end alike on related markings one by one, they do in a row. -/
theorem eachArc_lockstep {act act' : Arc → Update Unit}
    (hact : ∀ a m n, R m n → Lockstep R ((act a).run m) ((act' a).run n)) (arcs : List Arc)
    (h : R m n) : Lockstep R ((eachArc act arcs).run m) ((eachArc act' arcs).run n) := by
  induction arcs generalizing m n with
  | nil => exact ⟨rfl, h⟩
  | cons a rest ih =>
      have hfirst := hact a m n h
      rw [run_eachArc_cons, run_eachArc_cons]
      revert hfirst
      rcases (act a).run m with ⟨r, m'⟩
      rcases (act' a).run n with ⟨r', n'⟩
      rintro ⟨hr, hm⟩
      obtain rfl : r = r' := hr
      cases r with
      | error f => exact ⟨rfl, hm⟩
      | ok u => exact ih hm

theorem move_lockstep {b c : Option Bindings}
    (htake : ∀ a m n, R m n →
      Lockstep R ((takeInput s action b a).run m) ((takeInput s action c a).run n))
    (hgive : ∀ a m n, R m n →
      Lockstep R ((giveOutput s action b a).run m) ((giveOutput s action c a).run n))
    (h : R m n) : Lockstep R ((move s action b).run m) ((move s action c).run n) := by
  have hin := eachArc_lockstep htake (s.inputs action) h
  rw [run_move, run_move]
  revert hin
  rcases (eachArc (takeInput s action b) (s.inputs action)).run m with ⟨r, m'⟩
  rcases (eachArc (takeInput s action c) (s.inputs action)).run n with ⟨r', n'⟩
  rintro ⟨hr, hm⟩
  obtain rfl : r = r' := hr
  cases r with
  | error f => exact ⟨rfl, hm⟩
  | ok u => exact eachArc_lockstep hgive _ hm

end

/-! ### Calls -/

/-- An action can fire, and firing it leads to a marking. -/
structure Fires (net : Net) (action : String) (bindings : Option Bindings) (after : Marking) :
    Prop where
  enabled : net.enabled action = true
  moved : (move net.schema action bindings).run net.marking = (.ok (), after)
  sound : net.checksConstraints = true → violations { net with marking := after } = []

variable {net : Net} {bindings : Option Bindings}

theorem fire_of_fires {act : Action} (h : net.Fires act.id bindings after) :
    net.fire act bindings = (.ok (), { net with marking := after }) := by
  unfold fire
  simp only [h.enabled, h.moved, Bool.not_true, Bool.false_eq_true, if_false]
  by_cases hc : net.checksConstraints = true
  · rw [if_pos hc, h.sound hc]
    rfl
  · rw [if_neg hc]

theorem fire_cases (net : Net) (act : Action) (bindings : Option Bindings) :
    (∃ after, net.Fires act.id bindings after ∧
      net.fire act bindings = (.ok (), { net with marking := after })) ∨
    ∃ f, net.fire act bindings = (.error f, net) := by
  by_cases he : net.enabled act.id = true
  · rcases hm : (move net.schema act.id bindings).run net.marking with ⟨f | ⟨⟩, after⟩
    · exact Or.inr ⟨f, by simp [fire, he, hm]⟩
    · cases hv : (if net.checksConstraints then
          (violations { net with marking := after }).head? else none) with
      | some v => exact Or.inr ⟨v.fault, by simp [fire, he, hm, hv]⟩
      | none =>
          have hsound : net.checksConstraints = true →
              violations { net with marking := after } = [] := by
            intro hc
            rw [if_pos hc] at hv
            exact List.head?_eq_none_iff.mp hv
          have hfires : net.Fires act.id bindings after := ⟨he, hm, hsound⟩
          exact Or.inl ⟨after, hfires, fire_of_fires hfires⟩
  · exact Or.inr ⟨.actionNotEnabled act.id, by simp [fire, he]⟩

theorem execute_cases (net : Net) (action : String) :
    (∃ act after, net.schema.action? action = some act ∧ net.Fires action none after ∧
      net.execute action = (.ok (), { net with marking := after })) ∨
    ∃ f, net.execute action = (.error f, net) := by
  unfold execute
  cases ha : net.schema.action? action with
  | none => exact Or.inr ⟨.actionNotFound action, rfl⟩
  | some act =>
      have hid := (Schema.action?_some ha).2
      rcases fire_cases net act none with ⟨after, hfires, heq⟩ | ⟨f, heq⟩
      · exact Or.inl ⟨act, after, rfl, hid ▸ hfires, heq⟩
      · exact Or.inr ⟨f, heq⟩

theorem executeWith_of_fires {act : Action} {b : Bindings}
    (hact : net.schema.action? action = some act) (hguard : net.guardFault? act b = none)
    (h : net.Fires action (some b) after) :
    net.executeWith action b = (.ok (), { net with marking := after }) := by
  have hid := (Schema.action?_some hact).2
  unfold executeWith
  simp only [hact, hguard]
  exact fire_of_fires (hid.symm ▸ h)

theorem executeWith_cases (net : Net) (action : String) (b : Bindings) :
    (∃ act after, net.schema.action? action = some act ∧ net.guardFault? act b = none ∧
      net.Fires action (some b) after ∧
      net.executeWith action b = (.ok (), { net with marking := after })) ∨
    ∃ f, net.executeWith action b = (.error f, net) := by
  unfold executeWith
  cases ha : net.schema.action? action with
  | none => exact Or.inr ⟨.actionNotFound action, rfl⟩
  | some act =>
      simp only
      cases hg : net.guardFault? act b with
      | some f => exact Or.inr ⟨f, rfl⟩
      | none =>
          have hid := (Schema.action?_some ha).2
          rcases fire_cases net act (some b) with ⟨after, hfires, heq⟩ | ⟨f, heq⟩
          · exact Or.inl ⟨act, after, rfl, hg, hid ▸ hfires, heq⟩
          · exact Or.inr ⟨f, heq⟩

/-- A call changes at most the marking. -/
theorem executeWith_frame {b : Bindings} {net' : Net}
    (h : net.executeWith action b = (.ok (), net')) :
    net' = { net with marking := net'.marking } := by
  rcases net.executeWith_cases action b with ⟨_, after, -, -, -, heq⟩ | ⟨f, heq⟩
  · obtain rfl : { net with marking := after } = net' := congrArg Prod.snd (heq.symm.trans h)
    rfl
  · exact absurd (congrArg Prod.fst (heq.symm.trans h)) (by simp)

/-- A call that fails changes nothing. -/
theorem executeWith_failed {b : Bindings} {f : Fault} {net' : Net}
    (h : net.executeWith action b = (.error f, net')) : net' = net := by
  rcases net.executeWith_cases action b with ⟨_, after, -, -, -, heq⟩ | ⟨f', heq⟩
  · exact absurd (congrArg Prod.fst (heq.symm.trans h)) (by simp)
  · exact (congrArg Prod.snd (heq.symm.trans h)).symm

/-! ### Nets without data states -/

/-- Where all states are token states, a call leaves the data as it is. -/
theorem data_executeWith_of_tokens {b : Bindings}
    (htokens : ∀ st ∈ net.schema.states, st.isToken = true) :
    (net.executeWith action b).2.marking.data = net.marking.data := by
  have hkeep : ∀ (a : Arc) id moved add m after, m.data = net.marking.data →
      a.Did net.schema id moved add (some b) m after → after.data = net.marking.data := by
    intro a id moved add m after hm hdid
    cases hdid with
    | changed st b v hstate hdata =>
        have htoken := htokens st (Schema.state?_some hstate).1
        simp [hdata] at htoken
    | _ => exact hm
  rcases net.executeWith_cases action b with ⟨act, after, -, -, hfires, heq⟩ | ⟨f, heq⟩
  · rw [heq]
    exact move_invariant (P := fun m => m.data = net.marking.data)
      (fun a m after hm h => hkeep a _ _ _ m after hm (did_of_takeInput h))
      (fun a m after hm h => hkeep a _ _ _ m after hm (did_of_giveOutput h)) rfl hfires.moved
  · rw [heq]

end Net

theorem Marking.data_initial_of_tokens {s : Schema} (h : ∀ st ∈ s.states, st.isToken = true) :
    (initial s).data = [] := by
  exact initial_induction (P := fun m => m.data = []) rfl (fun m st _ _ hm => hm)
    fun m st hst hdata _ => absurd (h st hst) hdata

end EventNet
