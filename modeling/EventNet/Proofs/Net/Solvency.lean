import EventNet.Proofs.Expr.Conditions
import EventNet.Proofs.Net.Effects
import EventNet.Proofs.Net.Rollback
import EventNet.Proofs.Number.Sign

/-!
A guarded map is never overdrawn.

A `Purse` is a map state from whose entries an action takes an amount only under the guard that the
amount is positive and that the entry holds it, and to whose entries it adds an amount only under the
guard that it is positive.  The guard sees the entry that the arc will change: bindings are looked at
first, then counts, then data, so the map is the state's own as long as no binding and no token state
has its name.  Then a firing takes from an entry at most what it holds before anything is added to one,
and the entries stay numbers that are not below zero along every run.
-/

namespace EventNet

/-- A map of numbers of which none is below zero. -/
def Value.Solvent (v : Value) : Prop :=
  ∃ entries, v = .map entries ∧ ∀ e ∈ entries, ∃ x, e.2 = .number x ∧ ¬ x < 0

/-- A state that holds a map which is empty at first and whose entries are guarded. -/
structure Schema.Purse (s : Schema) (purse : StateDecl) : Prop where
  declared : purse ∈ s.states
  isMap : purse.isMap = true
  empty : purse.initialValue = .emptyMap
  name : Lexer.IsName purse.id
  /-- What is moved is the amount, in one entry. -/
  moves : ∀ a ∈ s.definition.arcs, a.source = purse.id ∨ a.target = purse.id →
    a.keys.length = 1 ∧ a.value = "amount"
  /-- An action that only adds to it has a positive amount. -/
  adds : ∀ act ∈ s.actions, (∀ a ∈ s.inputs act.id, a.source ≠ purse.id) →
    (∃ a ∈ s.outputs act.id, a.target = purse.id) → act.guard = some Condition.positive
  /-- An action that takes from it takes once, from the entry that the guard looks at. -/
  takes : ∀ act ∈ s.actions, ∀ a ∈ s.inputs act.id, a.source = purse.id →
    (s.inputs act.id).filter (·.source == purse.id) = [a] ∧ a.keys = ["from"] ∧
      act.guard = some (Condition.covered purse.id)

/-- A call whose guards are read as expressions.  Where it takes from the state, no binding stands for
the state. -/
structure Call.Plain (c : Call) (s : Schema) (purse : StateDecl) : Prop where
  evaluator : ∃ functions, c.evaluator = some (.standard functions)
  ordered : ∀ b, c.bindings = some b → Dict.Sorted b
  unshadowed : ∀ b, c.bindings = some b → (∃ a ∈ s.inputs c.action, a.source = purse.id) →
    Dict.get? b purse.id = none

/-! ### Entries -/

namespace Value

theorem solvent_emptyMap : emptyMap.Solvent :=
  ⟨[], rfl, nofun⟩

theorem Solvent.insert {entries : Dict Value} (h : (map entries).Solvent) {x : Float}
    (hx : ¬ x < 0) (k : String) : (map (entries.insert k (.number x))).Solvent := by
  obtain ⟨_, heq, hentries⟩ := h
  obtain rfl := Value.map.inj heq
  refine ⟨_, rfl, fun e he => ?_⟩
  rcases Dict.mem_insert he with rfl | he
  · exact ⟨x, rfl, hx⟩
  · exact hentries e he

/-- What an entry is read as. -/
theorem Solvent.held {entries : Dict Value} (h : (map entries).Solvent) (k : String) :
    ∃ x, (entries.get? k).getD .zero = .number x ∧ ¬ x < 0 := by
  obtain ⟨_, heq, hentries⟩ := h
  obtain rfl := Value.map.inj heq
  cases hk : entries.get? k with
  | none => exact ⟨0, rfl, by decide⟩
  | some v => exact hentries (k, v) (Dict.mem_of_get? hk)

/-- Adding to a number that an entry is read as. -/
theorem addAt_entry {state k : String} {entries : Dict Value} {x delta : Float}
    (hk : (entries.get? k).getD .zero = .number x) :
    addAt state delta none [k] (.map entries) = .ok (.map (entries.insert k (.number (x + delta)))) := by
  rw [addAt]
  simp only [List.isEmpty_nil, if_true, hk]
  rfl

end Value

/-! ### Arcs -/

section

variable {s : Schema} {purse : StateDecl} {a : Arc} {b : Bindings} {add : Bool}
  {m after : Marking} {action : String}

/-- An arc that moves the amount in one entry of a map. -/
theorem Arc.transformed_entry {key : String} {entries : Dict Value} {r : Option Value}
    (hmap : purse.isMap = true) (hkeys : a.keys = [key]) (hvalue : a.value = "amount")
    (hentries : (Value.map entries).Solvent)
    (h : a.transformed purse b add (some (.map entries)) = .ok r) :
    ∃ selector k amount held, Dict.get? b key = some selector ∧ selector.toKey? = some k ∧
      Dict.get? b "amount" = some (.number amount) ∧
      (entries.get? k).getD .zero = .number held ∧
      r = some (.map (entries.insert k (.number (held + if add then amount else -amount)))) := by
  obtain ⟨keys, amount, new, hselected, hamount, hnew, rfl⟩ :=
    Arc.transformed_keyed hmap (by simp [hkeys]) h
  rw [hkeys] at hselected
  obtain _ | ⟨hkey, hrest⟩ := Arc.forall₂_of_selectedKeys hselected
  cases hrest
  rename_i k
  obtain ⟨selector, hselector, hk⟩ := Option.bind_eq_some_iff.mp hkey
  obtain ⟨held, hheld, -⟩ := hentries.held k
  rw [Option.getD_some, Value.addAt_entry hheld] at hnew
  rw [hvalue] at hamount
  exact ⟨selector, k, amount, held, hselector, hk, hamount, hheld, congrArg some (Except.ok.inj hnew).symm⟩

end

/-! ### Markings -/

/-- A marking in which nothing but its value stands for a state. -/
structure Marking.Tidy (m : Marking) (purse : StateDecl) : Prop where
  tokens : m.tokens.Sorted
  data : m.data.Sorted
  uncounted : m.tokens.get? purse.id = none

/-- A marking in which a state holds a map of numbers of which none is below zero. -/
def Marking.Solvent (m : Marking) (purse : StateDecl) : Prop :=
  ∃ v, m.value? purse.id = some v ∧ v.Solvent

namespace Schema.Purse

variable {s : Schema} {purse : StateDecl} {a : Arc} {b : Bindings} {add : Bool} {id : String}
  {bindings : Option Bindings} {m after : Marking}

theorem not_isToken (h : s.Purse purse) : purse.isToken ≠ true := by
  rw [StateDecl.isToken_of_isMap h.isMap]
  exact Bool.false_ne_true

theorem state?_id (h : s.Purse purse) : s.state? purse.id = some purse :=
  Schema.state?_of_mem h.declared

theorem id_ne_of_token (h : s.Purse purse) {st : StateDecl} (hstate : s.state? id = some st)
    (htoken : st.isToken = true) : st.id ≠ purse.id := by
  intro heq
  rw [← (Schema.state?_some hstate).2, heq, h.state?_id] at hstate
  obtain rfl := Option.some.inj hstate
  exact h.not_isToken htoken

theorem tidy_of_acts (h : s.Purse purse) (hm : m.Tidy purse)
    (hacts : a.Acts s id add bindings m after) : after.Tidy purse := by
  cases hacts with
  | idle => exact hm
  | counts st n hstate htoken =>
      refine ⟨hm.tokens.insert _ _, hm.data, ?_⟩
      have hne := h.id_ne_of_token hstate htoken
      exact (Dict.get?_insert_of_ne m.tokens _ hne).trans hm.uncounted
  | moves st b v hstate => exact ⟨hm.tokens, hm.data.insert _ _, hm.uncounted⟩

/-- An arc of the map leaves it or moves the amount in one entry. -/
theorem value?_of_entry_acts (h : s.Purse purse) {key : String} {entries : Dict Value}
    (hkeys : a.keys = [key]) (hamount : a.value = "amount")
    (hvalue : m.value? purse.id = some (.map entries)) (hentries : (Value.map entries).Solvent)
    (hacts : a.Acts s purse.id add (some b) m after) :
    after.value? purse.id = some (.map entries) ∨
      ∃ selector k amount held, Dict.get? b key = some selector ∧ selector.toKey? = some k ∧
        Dict.get? b "amount" = some (.number amount) ∧
        (entries.get? k).getD .zero = .number held ∧ after.value? purse.id =
          some (.map (entries.insert k (.number (held + if add then amount else -amount)))) := by
  cases hacts with
  | idle => exact Or.inl hvalue
  | counts st n hstate htoken =>
      exact absurd (Schema.state?_some hstate).2 (h.id_ne_of_token hstate htoken)
  | moves st b' v hstate hbindings htransformed =>
      obtain rfl := Option.some.inj hbindings
      obtain rfl : purse = st := Option.some.inj (h.state?_id.symm.trans hstate)
      rw [hvalue] at htransformed
      obtain ⟨selector, k, amount, held, hselector, hk, hnumber, hheld, hv⟩ :=
        Arc.transformed_entry h.isMap hkeys hamount hentries htransformed
      refine Or.inr ⟨selector, k, amount, held, hselector, hk, hnumber, hheld, ?_⟩
      rw [← hv]
      exact Dict.get?_insert_self m.data _ v

/-- A positive amount is added to an entry. -/
theorem solvent_of_added (h : s.Purse purse) (ha : a ∈ s.definition.arcs)
    (htarget : a.target = purse.id)
    (hpos : ∀ amount, Dict.get? b "amount" = some (.number amount) → 0 < amount)
    (hm : m.Solvent purse) (hacts : a.Acts s purse.id true (some b) m after) :
    after.Solvent purse := by
  obtain ⟨hlength, hamount⟩ := h.moves a ha (Or.inr htarget)
  obtain ⟨key, hkeys⟩ := List.length_eq_one_iff.mp hlength
  obtain ⟨v, hvalue, hentries⟩ := hm
  obtain ⟨entries, rfl, -⟩ := id hentries
  rcases h.value?_of_entry_acts hkeys hamount hvalue hentries hacts with
    hsame | ⟨selector, k, amount, held, -, -, hnumber, hheld, hnew⟩
  · exact ⟨_, hsame, hentries⟩
  · obtain ⟨x, hx, hnonneg⟩ := hentries.held k
    obtain rfl : x = held := Value.number.inj (hx.symm.trans hheld)
    have hamount := Double.not_lt_zero_of_pos (hpos amount hnumber)
    exact ⟨_, hnew, hentries.insert (Double.not_lt_zero_add hnonneg hamount) k⟩

/-- A positive amount is taken from an entry that holds it. -/
theorem solvent_of_taken (h : s.Purse purse) {entries : Dict Value} (hkeys : a.keys = ["from"])
    (hamount : a.value = "amount") (hvalue : m.value? purse.id = some (.map entries))
    (hentries : (Value.map entries).Solvent)
    (hcovered : ∀ selector k amount held, Dict.get? b "from" = some selector →
      selector.toKey? = some k → Dict.get? b "amount" = some (.number amount) →
      (entries.get? k).getD .zero = .number held → 0 < amount ∧ amount ≤ held)
    (hacts : a.Acts s purse.id false (some b) m after) : after.Solvent purse := by
  rcases h.value?_of_entry_acts hkeys hamount hvalue hentries hacts with
    hsame | ⟨selector, k, amount, held, hselector, hk, hnumber, hheld, hnew⟩
  · exact ⟨_, hsame, hentries⟩
  · obtain ⟨hpos, hle⟩ := hcovered selector k amount held hselector hk hnumber hheld
    exact ⟨_, hnew, hentries.insert (Double.not_lt_zero_sub hpos hle) k⟩

end Schema.Purse

/-! ### Firings -/

namespace Net

/-- Where one arc of a list is singled out, what holds before it, and what it then makes hold, is kept
by the others. -/
theorem eachArc_once {update : Arc → Update Unit} {P Q : Marking → Prop} {single : Arc → Bool}
    {a : Arc} {after : Marking}
    (hskip : ∀ b m after, single b = false → (update b).run m = (.ok (), after) →
      (P m → P after) ∧ (Q m → Q after))
    (hact : ∀ m after, P m → (update a).run m = (.ok (), after) → Q after) :
    ∀ (arcs : List Arc) (m : Marking), arcs.filter single = [a] → P m →
      (eachArc update arcs).run m = (.ok (), after) → Q after := by
  intro arcs
  induction arcs with
  | nil =>
      intro m hfilter
      cases hfilter
  | cons b rest ih =>
      intro m hfilter hm h
      rw [run_eachArc_cons] at h
      split at h
      · rename_i mid hmid
        by_cases hb : single b = true
        · rw [List.filter_cons_of_pos hb] at hfilter
          obtain ⟨rfl, hrest⟩ := List.cons.inj hfilter
          have hothers : ∀ c ∈ rest, single c = false := by
            intro c hc
            simpa using List.filter_eq_nil_iff.mp hrest c hc
          refine eachArc_invariant rest (fun c hc m after hQ hrun => ?_) mid (hact m mid hm hmid) h
          exact (hskip c m after (hothers c hc) hrun).2 hQ
        · rw [List.filter_cons_of_neg hb] at hfilter
          have hskipped : P mid := (hskip b m mid (by simpa using hb) hmid).1 hm
          exact ih mid hfilter hskipped h
      · exact absurd (Prod.mk.inj h).1 (by simp)

end Net

namespace Schema.Purse

variable {s : Schema} {purse : StateDecl} {m after : Marking}

theorem tidy_of_move (h : s.Purse purse) {action : String} {bindings : Option Bindings}
    (hm : m.Tidy purse) (hmoved : (Net.move s action bindings).run m = (.ok (), after)) :
    after.Tidy purse :=
  Net.move_invariant (P := fun m => m.Tidy purse)
    (fun _ _ _ hm hrun => h.tidy_of_acts hm (Net.acts_of_takeInput hrun))
    (fun _ _ _ hm hrun => h.tidy_of_acts hm (Net.acts_of_giveOutput hrun)) hm hmoved

/-- Without bindings data is left aside. -/
theorem value?_of_move_none {action : String}
    (hmoved : (Net.move s action none).run m = (.ok (), after)) :
    after.value? purse.id = m.value? purse.id := by
  rw [Net.run_move_none] at hmoved
  rw [← (Prod.mk.inj hmoved).2]
  rfl

/-- What the guard of an action says of the amount: it is positive where the action moves it, and where
it is taken from an entry the entry holds it. -/
structure Passed (s : Schema) (purse : StateDecl) (act : Action) (b : Bindings) (m : Marking) :
    Prop where
  added : (∃ a ∈ s.outputs act.id, a.target = purse.id) →
    ∀ amount, Dict.get? b "amount" = some (.number amount) → 0 < amount
  taken : (∃ a ∈ s.inputs act.id, a.source = purse.id) →
    ∀ entries : Dict Value, m.value? purse.id = some (.map entries) → ∀ selector k amount held,
      Dict.get? b "from" = some selector → selector.toKey? = some k →
      Dict.get? b "amount" = some (.number amount) →
      (entries.get? k).getD .zero = .number held → 0 < amount ∧ amount ≤ held

theorem passed_of_guard (h : s.Purse purse) {c : Call} (hc : c.Plain s purse) {act : Action}
    (hact : s.action? c.action = some act) {b : Bindings} (hb : c.bindings = some b)
    (hm : m.Tidy purse) (hguard : (c.on s m).guardFault? act b = none) :
    Passed s purse act b m := by
  obtain ⟨hin, hid⟩ := Schema.action?_some hact
  obtain ⟨functions, hevaluator⟩ := hc.evaluator
  have hsorted := hc.ordered b hb
  by_cases htakes : ∃ a ∈ s.inputs act.id, a.source = purse.id
  · have hunbound : Dict.get? b purse.id = none := hc.unshadowed b hb (hid ▸ htakes)
    have hstate : Dict.get? ((c.on s m).guardContext b) purse.id = m.value? purse.id :=
      Net.guardContext_of_unbound hsorted hm.tokens hm.data hm.uncounted hunbound
    have hbound : ∀ name v, Dict.get? b name = some v →
        Dict.get? ((c.on s m).guardContext b) name = some v :=
      fun _ _ hv => Net.guardContext_of_bound hsorted hv
    obtain ⟨a, ha, hsource⟩ := htakes
    obtain ⟨-, -, hcovered⟩ := h.takes act hin a ha hsource
    have htrue := Net.guard_of_passed hcovered hevaluator hguard
    refine ⟨fun _ amount hamount => ?_, fun _ entries hvalue => ?_⟩
    · exact Condition.pos_of_covered h.name (hbound _ _ hamount) htrue
    · intro selector k amount held hselector hk hamount hheld
      have hnumber := hbound _ _ hamount
      refine ⟨Condition.pos_of_covered h.name hnumber htrue, ?_⟩
      exact Condition.le_of_covered h.name hnumber (hbound _ _ hselector) hk (hstate.trans hvalue)
        hheld htrue
  · refine ⟨fun hadds amount hamount => ?_, fun htakes' => absurd htakes' htakes⟩
    have hnone : ∀ a ∈ s.inputs act.id, a.source ≠ purse.id := fun a ha hsource =>
      htakes ⟨a, ha, hsource⟩
    have hpositive := h.adds act hin hnone hadds
    have htrue := Net.guard_of_passed hpositive hevaluator hguard
    exact Condition.pos_of_positive (Net.guardContext_of_bound hsorted hamount) htrue

/-- The input arcs of an action leave no entry below zero if its guard has passed. -/
theorem solvent_of_inputs (h : s.Purse purse) {act : Action} (hact : act ∈ s.actions) {b : Bindings}
    (hpassed : Passed s purse act b m) (hm : m.Solvent purse)
    (hrun : (Net.eachArc (Net.takeInput s act.id (some b)) (s.inputs act.id)).run m =
      (.ok (), after)) : after.Solvent purse := by
  have hskip : ∀ a m after, a.source ≠ purse.id →
      (Net.takeInput s act.id (some b) a).run m = (.ok (), after) →
      after.value? purse.id = m.value? purse.id := by
    intro a m after hsource hrun
    exact Net.value?_of_acts (Net.acts_of_takeInput hrun) hsource
  by_cases htakes : ∃ a ∈ s.inputs act.id, a.source = purse.id
  · obtain ⟨a, ha, hsource⟩ := htakes
    obtain ⟨hsingle, hkeys, -⟩ := h.takes act hact a ha hsource
    obtain ⟨-, hamount⟩ := h.moves a (Schema.mem_inputs ha).1 (Or.inl hsource)
    obtain ⟨v, hvalue, hsolvent⟩ := hm
    obtain ⟨entries, rfl, -⟩ := id hsolvent
    refine Net.eachArc_once (P := fun m => m.value? purse.id = some (.map entries))
      (Q := fun m => m.Solvent purse) ?_ ?_ _ m hsingle hvalue hrun
    · intro a' m after hother hrun
      have hsame := hskip a' m after (by simpa using hother) hrun
      exact ⟨hsame.trans, fun ⟨v, hv, hsolvent⟩ => ⟨v, hsame.trans hv, hsolvent⟩⟩
    · intro m after hbefore hrun
      have hacts := Net.acts_of_takeInput hrun
      rw [hsource] at hacts
      have hcovered := hpassed.taken ⟨a, ha, hsource⟩ entries hvalue
      exact h.solvent_of_taken hkeys hamount hbefore hsolvent hcovered hacts
  · refine Net.eachArc_invariant (P := fun m => m.Solvent purse) _ (fun a ha m after hm hrun => ?_)
      m hm hrun
    obtain ⟨v, hv, hsolvent⟩ := hm
    have hsame := hskip a m after (fun hsource => htakes ⟨a, ha, hsource⟩) hrun
    exact ⟨v, hsame.trans hv, hsolvent⟩

/-- The arcs of an action leave no entry below zero if its guard has passed. -/
theorem solvent_of_move (h : s.Purse purse) {act : Action} (hact : act ∈ s.actions) {b : Bindings}
    (hpassed : Passed s purse act b m) (hm : m.Solvent purse)
    (hmoved : (Net.move s act.id (some b)).run m = (.ok (), after)) : after.Solvent purse := by
  rw [Net.run_move] at hmoved
  split at hmoved
  · rename_i mid hmid
    have htaken : mid.Solvent purse := h.solvent_of_inputs hact hpassed hm hmid
    refine Net.eachArc_invariant (P := fun m => m.Solvent purse) _ (fun a ha m after hm hrun => ?_)
      mid htaken hmoved
    have hacts := Net.acts_of_giveOutput hrun
    by_cases htarget : a.target = purse.id
    · rw [htarget] at hacts
      exact h.solvent_of_added (Schema.mem_outputs ha) htarget (hpassed.added ⟨a, ha, htarget⟩) hm hacts
    · obtain ⟨v, hv, hsolvent⟩ := hm
      exact ⟨v, (Net.value?_of_acts hacts htarget).trans hv, hsolvent⟩
  · exact absurd (Prod.mk.inj hmoved).1 (by simp)

/-! ### Runs -/

theorem solvent_initial (h : s.Purse purse) : (Marking.initial s).Solvent purse := by
  have hvalue := Marking.value?_initial h.declared h.not_isToken
  rw [h.empty] at hvalue
  exact ⟨_, hvalue, Value.solvent_emptyMap⟩

theorem tidy_initial (h : s.Purse purse) : (Marking.initial s).Tidy purse := by
  refine Marking.initial_induction (P := fun m => m.Tidy purse) ⟨Dict.sorted_nil, Dict.sorted_nil, rfl⟩
    (fun m st hst htoken hm => ?_) (fun m st hst _ hm => ?_)
  · have hne := h.id_ne_of_token (Schema.state?_of_mem hst) htoken
    refine ⟨hm.tokens.insert _ _, hm.data, ?_⟩
    exact (Dict.get?_insert_of_ne m.tokens _ hne).trans hm.uncounted
  · exact ⟨hm.tokens, hm.data.insert _ _, hm.uncounted⟩

/-- A call leaves no entry below zero. -/
theorem solvent_after (h : s.Purse purse) {c : Call} (hc : c.Plain s purse)
    (hm : m.Tidy purse ∧ m.Solvent purse) :
    (c.after s m).Tidy purse ∧ (c.after s m).Solvent purse := by
  rcases c.cases s m with ⟨act, hact, hok, hfires⟩ | ⟨-, hsame⟩
  · obtain ⟨hin, hid⟩ := Schema.action?_some hact
    have hguard := Call.guardFault?_of_ok hact hok
    have hmoved := hfires.moved
    rw [← hid] at hmoved
    refine ⟨h.tidy_of_move hm.1 hmoved, ?_⟩
    cases hb : c.bindings with
    | none =>
        rw [hb] at hmoved
        obtain ⟨v, hv, hsolvent⟩ := hm.2
        exact ⟨v, (value?_of_move_none hmoved).trans hv, hsolvent⟩
    | some b =>
        rw [hb] at hmoved
        rw [Call.guardFault?, hb] at hguard
        have hpassed := h.passed_of_guard hc hact hb hm.1 hguard
        exact h.solvent_of_move hin hpassed hm.2 hmoved
  · rw [hsame]
    exact hm

/-- **A guarded map is never overdrawn.** -/
theorem never_overdrawn (h : s.Purse purse) (calls : List Call)
    (hcalls : ∀ c ∈ calls, c.Plain s purse) :
    (Call.afterAll s (.initial s) calls).Solvent purse := by
  have hrun : ∀ (calls : List Call) (m : Marking), (∀ c ∈ calls, c.Plain s purse) →
      m.Tidy purse ∧ m.Solvent purse → (Call.afterAll s m calls).Solvent purse := by
    intro calls
    induction calls with
    | nil => exact fun m _ hm => hm.2
    | cons c rest ih =>
        intro m hcalls hm
        have hafter := h.solvent_after (hcalls c List.mem_cons_self) hm
        exact ih _ (fun c' hc' => hcalls c' (List.mem_cons_of_mem c hc')) hafter
  exact hrun calls _ hcalls ⟨h.tidy_initial, h.solvent_initial⟩

end Schema.Purse

/-! ### A wallet

The guard of a transfer looks at the balances, and a binding of that name stands in front of them. -/

/-- Balances that are deposited and transferred. -/
def Definition.wallet : Definition :=
  ⟨"wallet", none, [.data "balances" "map[string]number"],
    [.guarded "deposit" Condition.positive, .guarded "transfer" (Condition.covered "balances")],
    [⟨"deposit", "balances", 1, ["to"], "amount", false⟩,
      ⟨"balances", "transfer", 1, ["from"], "amount", false⟩,
      ⟨"transfer", "balances", 1, ["to"], "amount", false⟩], []⟩

/-- The schema of the wallet. -/
def Schema.wallet : Schema :=
  ⟨.wallet, .ofDefinition .wallet, Definition.check_of_isOk (by decide +kernel), rfl⟩

theorem Schema.purse_wallet : Schema.wallet.Purse (.data "balances" "map[string]number") where
  declared := List.mem_singleton_self _
  isMap := by decide
  empty := rfl
  name := ⟨'b', ['a', 'l', 'a', 'n', 'c', 'e', 's'], rfl, rfl, List.all_eq_true.mp rfl, rfl⟩
  moves := by decide
  adds := by decide
  takes := by decide

/-- A call with bindings. -/
def Call.bound (action : String) (b : Bindings) : Call :=
  ⟨action, some b, some (.standard []), false⟩

/-- A deposit and a transfer of a part of it. -/
def Call.payments : List Call :=
  [bound "deposit" [("amount", .number 100), ("to", .str "alice")],
    bound "transfer" [("amount", .number 30), ("from", .str "alice"), ("to", .str "bob")]]

theorem Call.plain_payments :
    ∀ c ∈ payments, c.Plain .wallet (.data "balances" "map[string]number") := by
  intro c hc
  rcases List.mem_pair.mp hc with rfl | rfl
  · refine ⟨⟨[], rfl⟩, fun b hb => ?_, fun b hb _ => ?_⟩ <;> obtain rfl := Option.some.inj hb
    · unfold Dict.Sorted
      decide
    · rfl
  · refine ⟨⟨[], rfl⟩, fun b hb => ?_, fun b hb _ => ?_⟩ <;> obtain rfl := Option.some.inj hb
    · unfold Dict.Sorted
      decide
    · rfl

theorem Schema.Purse.never_overdrawn_payments :
    (Call.accepted .wallet (.initial .wallet) Call.payments).length = 2 ∧
      (Call.afterAll .wallet (.initial .wallet) Call.payments).Solvent
        (.data "balances" "map[string]number") :=
  ⟨by decide +kernel, never_overdrawn purse_wallet Call.payments Call.plain_payments⟩

/-- A transfer that brings balances of its own. -/
def Call.shadowing : Call :=
  bound "transfer" [("amount", .number 5), ("balances", .map [("a", .number 100)]), ("from", .str "a"),
    ("to", .str "b")]

theorem Schema.Purse.shadowed_overdrawn :
    ¬ ∀ (s : Schema) (purse : StateDecl), s.Purse purse → ∀ calls : List Call,
      (∀ c ∈ calls, ∃ functions b, c.evaluator = some (.standard functions) ∧
        c.bindings = some b ∧ Dict.Sorted b) →
      ∀ entries : Dict Value,
        (Call.afterAll s (.initial s) calls).value? purse.id = some (.map entries) →
        ∀ e ∈ entries, ∀ x, e.2 = .number x → ¬ x < 0 := by
  intro h
  have hcalls : ∀ c ∈ [Call.shadowing], ∃ functions b, c.evaluator = some (.standard functions) ∧
      c.bindings = some b ∧ Dict.Sorted b := by
    intro c hc
    obtain rfl := List.mem_singleton.mp hc
    refine ⟨[], _, rfl, rfl, ?_⟩
    unfold Dict.Sorted
    decide
  have hnegative : (((Call.afterAll .wallet (.initial .wallet) [Call.shadowing]).value? "balances").bind
      Value.map?).any (fun entries => entries.any fun e => e.2.number?.any (· < 0)) = true := by
    decide +kernel
  obtain ⟨entries, hentries, hany⟩ := (Option.any_eq_true _ _).mp hnegative
  obtain ⟨v, hvalue, hmap⟩ := Option.bind_eq_some_iff.mp hentries
  obtain ⟨e, he, hbelow⟩ := List.any_eq_true.mp hany
  obtain ⟨x, hx, hlt⟩ := (Option.any_eq_true _ _).mp hbelow
  rw [Value.eq_map hmap] at hvalue
  exact h .wallet _ purse_wallet [Call.shadowing] hcalls entries hvalue e he x
    (Value.eq_number hx) (of_decide_eq_true hlt)

end EventNet
