import EventNet.Proofs.Net.Arcs
import EventNet.Proofs.Net.Firing
import EventNet.Proofs.Net.Paths

/-!
What arcs do to data.

An arc acts on one state.  So the value of a data state after a firing is what its own arcs make of its
value before, the inputs of the action first, and the arcs of other states do not come into it:
`Net.value_of_move`.  Guards see that value under the id of the state, unless a binding or a count
stands for it.
-/

namespace EventNet

/-! ### One arc -/

theorem StateDecl.isToken_of_isMap {st : StateDecl} (h : st.isMap = true) : st.isToken = false := by
  unfold isMap at h
  rw [Bool.and_eq_true, beq_iff_eq] at h
  simp [isToken, h.1]

/-- What an arc between an action and the state `id` does to a marking. -/
inductive Arc.Acts (s : Schema) (a : Arc) (id : String) (add : Bool) (bindings : Option Bindings)
    (m : Marking) : Marking → Prop
  | idle : Acts s a id add bindings m m
  | counts (st : StateDecl) (n : Int) (hstate : s.state? id = some st)
      (htoken : st.isToken = true) : Acts s a id add bindings m (m.addTokens st.id n)
  | moves (st : StateDecl) (b : Bindings) (v : Value) (hstate : s.state? id = some st)
      (hbindings : bindings = some b)
      (hvalue : a.transformed st b add (m.value? st.id) = .ok (some v)) :
      Acts s a id add bindings m (m.setValue st.id v)

/-- What is held for a data state after an arc has acted on it. -/
def Arc.updated (a : Arc) (st : StateDecl) (b : Bindings) (add : Bool) (held : Option Value) :
    Except BindingFault (Option Value) :=
  (a.transformed st b add held).map fun change => change.or held

/-- What is held for a data state after some arcs, one after the other. -/
def Arc.updatedAll (st : StateDecl) (b : Bindings) (add : Bool) (arcs : List Arc)
    (held : Option Value) : Except BindingFault (Option Value) :=
  arcs.foldlM (fun held a => a.updated st b add held) held

namespace Arc

variable {st : StateDecl} {a : Arc} {b : Bindings} {add : Bool} {held after : Option Value}

/-- Keys are selected one for each name. -/
theorem forall₂_of_selectedKeys {names keys : List String} (h : selectedKeys b names = .ok keys) :
    List.Forall₂ (fun name k => (Dict.get? b name).bind Value.toKey? = some k) names keys := by
  induction names generalizing keys with
  | nil =>
      obtain rfl := Except.ok.inj h
      exact .nil
  | cons name rest ih =>
      unfold selectedKeys at h
      split at h
      · cases h
      · rename_i k hk
        cases hrest : selectedKeys b rest with
        | error f =>
            rw [hrest] at h
            cases h
        | ok ks =>
            rw [hrest] at h
            obtain rfl := Except.ok.inj h
            exact .cons hk (ih hrest)

/-- An arc with keys adds a number at a path of a map, or takes it away. -/
theorem transformed_keyed {change : Option Value} (hmap : st.isMap = true) (hkeys : a.keys ≠ [])
    (h : a.transformed st b add held = .ok change) :
    ∃ keys amount new, selectedKeys b a.keys = .ok keys ∧
      Dict.get? b a.value = some (.number amount) ∧
      Value.addAt st.id (if add then amount else -amount) none keys (held.getD .emptyMap) = .ok new ∧
      change = some new := by
  unfold transformed at h
  rw [if_neg (by simp [hmap, hkeys])] at h
  split at h
  · cases h
  · rename_i keys hselected
    split at h
    · cases h
    · rename_i amount hamount
      obtain ⟨v, hv, hnumber⟩ := Option.bind_eq_some_iff.mp hamount
      obtain rfl := Value.eq_number hnumber
      simp only at h
      cases hnew : Value.addAt st.id (if add then amount else -amount) none keys
          (held.getD .emptyMap) with
      | error f =>
          rw [hnew] at h
          cases h
      | ok new =>
          rw [hnew] at h
          exact ⟨keys, amount, new, hselected, hv, hnew, (Except.ok.inj h).symm⟩

theorem updated_ok (h : a.updated st b add held = .ok after) :
    ∃ change, a.transformed st b add held = .ok change ∧ after = change.or held := by
  unfold updated at h
  cases hchange : a.transformed st b add held with
  | error f =>
      rw [hchange] at h
      cases h
  | ok change =>
      rw [hchange] at h
      exact ⟨change, rfl, (Except.ok.inj h).symm⟩

theorem updated_keyed (hmap : st.isMap = true) (hkeys : a.keys ≠ [])
    (h : a.updated st b add held = .ok after) :
    ∃ keys amount new, selectedKeys b a.keys = .ok keys ∧
      Dict.get? b a.value = some (.number amount) ∧
      Value.addAt st.id (if add then amount else -amount) none keys (held.getD .emptyMap) = .ok new ∧
      after = some new := by
  obtain ⟨change, hchange, hafter⟩ := updated_ok h
  obtain ⟨keys, amount, new, hselected, hamount, hnew, rfl⟩ := transformed_keyed hmap hkeys hchange
  exact ⟨keys, amount, new, hselected, hamount, hnew, hafter⟩

/-- Without a map inputs are only read. -/
theorem updated_input (hplain : st.isMap = false) (h : a.updated st b false held = .ok after) :
    after = held := by
  obtain ⟨change, hchange, rfl⟩ := updated_ok h
  unfold transformed at hchange
  simp only [hplain, Bool.not_false, Bool.true_or, if_true, Bool.false_eq_true, if_false] at hchange
  obtain rfl := Except.ok.inj hchange
  rfl

/-- Without a map an output is given the bound value. -/
theorem updated_output (hplain : st.isMap = false) (h : a.updated st b true held = .ok after) :
    ∃ v, Dict.get? b a.value = some v ∧ after = some v := by
  obtain ⟨change, hchange, rfl⟩ := updated_ok h
  unfold transformed at hchange
  simp only [hplain, Bool.not_false, Bool.true_or, if_true] at hchange
  split at hchange
  · rename_i v hv
    obtain rfl := Except.ok.inj hchange
    exact ⟨v, hv, rfl⟩
  · cases hchange

/-! ### Arcs one after the other -/

variable {arcs : List Arc}

theorem updatedAll_cons (a : Arc) (arcs : List Arc) (held : Option Value) :
    updatedAll st b add (a :: arcs) held =
      (a.updated st b add held).bind (updatedAll st b add arcs) := by
  unfold updatedAll
  rw [List.foldlM_cons]
  rfl

theorem updatedAll_cons_ok (h : updatedAll st b add (a :: arcs) held = .ok after) :
    ∃ mid, a.updated st b add held = .ok mid ∧ updatedAll st b add arcs mid = .ok after := by
  rw [updatedAll_cons] at h
  cases hmid : a.updated st b add held with
  | error f =>
      rw [hmid] at h
      cases h
  | ok mid =>
      rw [hmid] at h
      exact ⟨mid, rfl, h⟩

theorem updated_of_singleton (h : updatedAll st b add [a] held = .ok after) :
    a.updated st b add held = .ok after := by
  obtain ⟨mid, hmid, hnil⟩ := updatedAll_cons_ok h
  obtain rfl : mid = after := Except.ok.inj hnil
  exact hmid

/-- What every arc keeps, all of them keep. -/
theorem updatedAll_invariant {P : Option Value → Prop}
    (hkeep : ∀ a ∈ arcs, ∀ held after, P held → a.updated st b add held = .ok after → P after)
    (hheld : P held) (h : updatedAll st b add arcs held = .ok after) : P after := by
  induction arcs generalizing held with
  | nil =>
      obtain rfl := Except.ok.inj h
      exact hheld
  | cons a rest ih =>
      obtain ⟨mid, hmid, hrest⟩ := updatedAll_cons_ok h
      have hfirst : P mid := hkeep a List.mem_cons_self held mid hheld hmid
      exact ih (fun a' ha' => hkeep a' (List.mem_cons_of_mem a ha')) hfirst hrest

/-- None of the arcs has failed. -/
theorem updated_of_updatedAll (h : updatedAll st b add arcs held = .ok after) (ha : a ∈ arcs) :
    ∃ before mid, a.updated st b add before = .ok mid := by
  induction arcs generalizing held with
  | nil => cases ha
  | cons first rest ih =>
      obtain ⟨mid, hmid, hrest⟩ := updatedAll_cons_ok h
      rcases List.mem_cons.mp ha with rfl | ha
      · exact ⟨held, mid, hmid⟩
      · exact ih hrest ha

/-- The last arc acts on what the others have led to. -/
theorem updatedAll_last (h : updatedAll st b add arcs held = .ok after) (ha : arcs.getLast? = some a) :
    ∃ mid, a.updated st b add mid = .ok after := by
  induction arcs generalizing held with
  | nil => cases ha
  | cons first rest ih =>
      obtain ⟨mid, hmid, hrest⟩ := updatedAll_cons_ok h
      cases rest with
      | nil =>
          obtain rfl := Option.some.inj ha
          obtain rfl := Except.ok.inj hrest
          exact ⟨held, hmid⟩
      | cons second rest => exact ih hrest (by rwa [List.getLast?_cons_cons] at ha)

end Arc

namespace Net

variable {s : Schema} {a : Arc} {b : Bindings} {add : Bool} {m after : Marking} {action : String}

theorem acts_of_did {id : String} {moved : Option Int} {bindings : Option Bindings}
    (h : a.Did s id moved add bindings m after) : a.Acts s id add bindings m after := by
  cases h with
  | counted st n hstate htoken =>
      rw [← (Schema.state?_some hstate).2]
      exact .counts st n ((Schema.state?_some hstate).2.symm ▸ hstate) htoken
  | changed st b v hstate hdata hbindings hvalue => exact .moves st b v hstate hbindings hvalue
  | _ => exact .idle

theorem acts_of_takeInput {bindings : Option Bindings}
    (h : (takeInput s action bindings a).run m = (.ok (), after)) :
    a.Acts s a.source false bindings m after :=
  acts_of_did (did_of_takeInput h)

theorem acts_of_giveOutput {bindings : Option Bindings}
    (h : (giveOutput s action bindings a).run m = (.ok (), after)) :
    a.Acts s a.target true bindings m after :=
  acts_of_did (did_of_giveOutput h)

/-- An arc leaves the values of other states. -/
theorem value?_of_acts {id state : String} {bindings : Option Bindings}
    (hacts : a.Acts s id add bindings m after) (hid : id ≠ state) :
    after.value? state = m.value? state := by
  cases hacts with
  | idle => rfl
  | counts => rfl
  | moves st b v hstate =>
      rw [← (Schema.state?_some hstate).2] at hid
      exact Dict.get?_insert_of_ne m.data _ hid

/-- An arc updates the value of its own data state. -/
theorem updated_of_did {st : StateDecl} {moved : Option Int} (hst : st ∈ s.states)
    (hdata : st.isToken = false) (h : a.Did s st.id moved add (some b) m after) :
    a.updated st b add (m.value? st.id) = .ok (after.value? st.id) := by
  have hown := Schema.state?_of_mem hst
  unfold Arc.updated
  cases h with
  | loose hstate => cases hstate.symm.trans hown
  | tested st' hstate htoken =>
      obtain rfl := Option.some.inj (hstate.symm.trans hown)
      simp [hdata] at htoken
  | counted st' n hstate htoken =>
      obtain rfl := Option.some.inj (hstate.symm.trans hown)
      simp [hdata] at htoken
  | unbound st' hstate hdata' hbindings => cases hbindings
  | kept st' b' hstate hdata' hbindings hvalue =>
      obtain rfl := Option.some.inj (hstate.symm.trans hown)
      obtain rfl := Option.some.inj hbindings
      rw [hvalue]
      rfl
  | changed st' b' v hstate hdata' hbindings hvalue =>
      obtain rfl := Option.some.inj (hstate.symm.trans hown)
      obtain rfl := Option.some.inj hbindings
      rw [hvalue]
      exact congrArg Except.ok (Dict.get?_insert_self m.data _ v).symm

/-! ### All arcs of an action -/

variable {st : StateDecl}

/-- Where each arc of a part of a list updates a state and the others leave it, the list updates it as
the part does. -/
theorem updatedAll_of_eachArc {act : Arc → Update Unit} {own : Arc → Bool}
    (hown : ∀ a m after, own a = true → (act a).run m = (.ok (), after) →
      a.updated st b add (m.value? st.id) = .ok (after.value? st.id))
    (hother : ∀ a m after, own a = false → (act a).run m = (.ok (), after) →
      after.value? st.id = m.value? st.id) :
    ∀ (arcs : List Arc) (m : Marking), (eachArc act arcs).run m = (.ok (), after) →
      Arc.updatedAll st b add (arcs.filter own) (m.value? st.id) = .ok (after.value? st.id) := by
  intro arcs
  induction arcs with
  | nil =>
      intro m h
      rw [← (Prod.mk.inj h).2]
      rfl
  | cons a rest ih =>
      intro m h
      rw [run_eachArc_cons] at h
      split at h
      · rename_i mid hmid
        have hrest := ih mid h
        by_cases ha : own a = true
        · rw [List.filter_cons_of_pos ha]
          rw [Arc.updatedAll_cons, hown a m mid ha hmid]
          exact hrest
        · rw [List.filter_cons_of_neg ha, ← hother a m mid (by simpa using ha) hmid]
          exact hrest
      · exact absurd (Prod.mk.inj h).1 (by simp)

theorem updatedAll_of_inputs (hst : st ∈ s.states) (hdata : st.isToken = false)
    (haction : action ∈ s.definition.actionIds)
    (h : (eachArc (takeInput s action (some b)) (s.inputs action)).run m = (.ok (), after)) :
    Arc.updatedAll st b false (s.definition.between st.id action) (m.value? st.id) =
      .ok (after.value? st.id) := by
  rw [← Schema.inputs_from haction]
  refine updatedAll_of_eachArc ?_ ?_ _ m h
  · intro a m after ha hrun
    have hdid := did_of_takeInput hrun
    rw [beq_iff_eq.mp ha] at hdid
    exact updated_of_did hst hdata hdid
  · intro a m after ha hrun
    exact value?_of_acts (acts_of_takeInput hrun) (by simpa using ha)

theorem updatedAll_of_outputs (hst : st ∈ s.states) (hdata : st.isToken = false)
    (haction : action ∈ s.definition.actionIds)
    (h : (eachArc (giveOutput s action (some b)) (s.outputs action)).run m = (.ok (), after)) :
    Arc.updatedAll st b true (s.definition.between action st.id) (m.value? st.id) =
      .ok (after.value? st.id) := by
  rw [← Schema.outputs_to haction]
  refine updatedAll_of_eachArc ?_ ?_ _ m h
  · intro a m after ha hrun
    have hdid := did_of_giveOutput hrun
    rw [beq_iff_eq.mp ha] at hdid
    exact updated_of_did hst hdata hdid
  · intro a m after ha hrun
    exact value?_of_acts (acts_of_giveOutput hrun) (by simpa using ha)

/-- The value of a data state after a firing is what its own arcs make of it. -/
theorem value_of_move (hst : st ∈ s.states) (hdata : st.isToken = false)
    (haction : action ∈ s.definition.actionIds)
    (h : (move s action (some b)).run m = (.ok (), after)) :
    ∃ mid, Arc.updatedAll st b false (s.definition.between st.id action) (m.value? st.id) = .ok mid ∧
      Arc.updatedAll st b true (s.definition.between action st.id) mid =
        .ok (after.value? st.id) := by
  rw [run_move] at h
  split at h
  · rename_i mid hmid
    exact ⟨mid.value? st.id, updatedAll_of_inputs hst hdata haction hmid,
      updatedAll_of_outputs hst hdata haction h⟩
  · exact absurd (Prod.mk.inj h).1 (by simp)

/-! ### What guards see -/

variable {net : Net} {act : Action}

theorem guard_of_passed {guard : String} {evaluator : GuardEvaluator}
    (hguard : act.guard = some guard) (hevaluator : net.evaluator = some evaluator)
    (h : net.guardFault? act b = none) : evaluator.guard guard (net.guardContext b) = .ok true := by
  unfold guardFault? at h
  rw [hguard, hevaluator] at h
  simp only at h
  split at h
  · rename_i htrue
    exact htrue
  · cases h
  · cases h

/-- A guard sees bindings first. -/
theorem guardContext_of_bound (hb : Dict.Sorted b) {name : String} {v : Value}
    (h : Dict.get? b name = some v) : Dict.get? (net.guardContext b) name = some v := by
  unfold guardContext
  rw [Dict.get?_insertAll hb, h]
  rfl

/-- A guard sees the value of a state that nothing else stands for. -/
theorem guardContext_of_unbound (hb : Dict.Sorted b) (htokens : net.marking.tokens.Sorted)
    (hdata : net.marking.data.Sorted) {state : String}
    (huncounted : net.marking.tokens.get? state = none) (h : Dict.get? b state = none) :
    Dict.get? (net.guardContext b) state = net.marking.value? state := by
  unfold guardContext
  rw [Dict.get?_insertAll hb, h, Dict.get?_insertAll (htokens.mapValues _), Dict.get?_mapValues,
    huncounted, Dict.get?_insertAll hdata]
  exact Option.or_none

end Net

end EventNet
