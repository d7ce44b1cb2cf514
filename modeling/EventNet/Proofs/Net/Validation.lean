import EventNet.Proofs.Net.Format
import EventNet.Proofs.Number.Exact

/-!
The check accepts exactly the valid definitions.

`Definition.Valid` says what a definition has to be without saying how that is found out.  The check goes
through states, actions, arcs and constraints and remembers the ids it has seen; of each pass it is shown
what it accepts, and what is left to remember is `Fresh`, ids that are new and distinct.  Arcs are looked
at after states and actions only.  By then no id has two declarations, so an arc joins at most one state
and one action, and in one direction: that the check tries one direction first makes no difference.
-/

namespace EventNet

/-! ### What a valid definition is -/

/-- A count is a number that stands for a natural one. -/
def Value.IsCount (v : Value) : Prop :=
  ∃ x, v = .number x ∧ ∃ n : Nat, Double.value? x = some (n : ℚ)

/-- A text that is read as an expression. -/
def Compiles (text : String) : Prop :=
  ∃ e, CompiledExpr.compile text = .ok e

namespace Definition

/-- An arc runs from a state into an action, or from an action to a state. -/
def Joins (d : Definition) (a : Arc) (st : StateDecl) (intoAction : Bool) : Prop :=
  if intoAction then a.source = st.id ∧ a.target ∈ d.actionIds
  else a.target = st.id ∧ a.source ∈ d.actionIds

/-- An arc between a state and an action that can stand in a definition. -/
structure ValidArc (d : Definition) (a : Arc) (st : StateDecl) (intoAction : Bool) : Prop where
  joins : d.Joins a st intoAction
  keys : a.keys.length ≤ 2
  weight : st.isToken = true → 1 ≤ a.weight
  inhibitor : a.inhibitor = true → intoAction = true ∧ st.isToken = true

/-- A well-formed definition. -/
structure Valid (d : Definition) : Prop where
  named : ∀ id ∈ d.stateIds ++ d.actionIds, id ≠ ""
  distinct : (d.stateIds ++ d.actionIds).Nodup
  counts : ∀ s ∈ d.states, s.isToken = true → ∀ v, s.initial = some v → v.IsCount
  guards : ∀ a ∈ d.actions, ∀ g, a.guard = some g → Compiles g
  constraints : ∀ c ∈ d.constraints, Compiles c.expr
  constraintIds : (d.constraints.map (·.id)).Nodup
  arcs : ∀ a ∈ d.arcs, ∃ st ∈ d.states, ∃ intoAction, d.ValidArc a st intoAction

end Definition

theorem isInitialCount_iff {v : Value} : isInitialCount v = true ↔ v.IsCount := by
  constructor
  · intro h
    cases v with
    | number x => exact ⟨x, rfl, _, Double.value?_toIndex h⟩
    | _ => cases h
  · rintro ⟨x, rfl, n, hn⟩
    exact (Double.isPosition_of_value? hn).1

theorem compiles_iff {text : String} : Compiles text ↔ ∃ e, Expr.parse text = .ok e := by
  unfold Compiles CompiledExpr.compile
  cases Expr.parse text <;> simp [Except.map]

/-! ### Ids that were not seen before -/

/-- Distinct ids, none of which was seen. -/
def Fresh (seen ids : List String) : Prop :=
  ids.Nodup ∧ ∀ id ∈ ids, id ∉ seen

theorem fresh_cons {seen ids : List String} {id : String} :
    Fresh seen (id :: ids) ↔ id ∉ seen ∧ Fresh (id :: seen) ids := by
  unfold Fresh
  rw [List.nodup_cons, List.forall_mem_cons]
  constructor
  · rintro ⟨⟨hnew, hids⟩, hid, hseen⟩
    refine ⟨hid, hids, fun x hx hmem => ?_⟩
    rcases List.mem_cons.mp hmem with rfl | hmem
    · exact hnew hx
    · exact hseen x hx hmem
  · rintro ⟨hid, hids, hseen⟩
    refine ⟨⟨fun hmem => hseen id hmem List.mem_cons_self, hids⟩, hid, fun x hx hmem => ?_⟩
    exact hseen x hx (List.mem_cons_of_mem _ hmem)

namespace Definition

/-! ### The passes of the check -/

theorem checkStates_iff {seen : List String} {states : List StateDecl} :
    checkStates seen states = .ok () ↔
      Fresh seen (states.map (·.id)) ∧ (∀ s ∈ states, s.id ≠ "") ∧
        ∀ s ∈ states, s.isToken = true → ∀ v, s.initial = some v → v.IsCount := by
  induction states generalizing seen with
  | nil => simp [checkStates, Fresh]
  | cons s rest ih =>
      have hempty : s.id.isEmpty = false ↔ s.id ≠ "" := by simp
      simp only [checkStates_cons, List.map_cons, fresh_cons, List.forall_mem_cons, ih, hempty,
        isInitialCount_iff]
      tauto

/-- What the check asks of an action and of those after it. -/
theorem checkActions_cons {states seen : List String} {a : Action} {rest : List Action} :
    checkActions states seen (a :: rest) = .ok () ↔
      a.id ≠ "" ∧ a.id ∉ states ∧ a.id ∉ seen ∧ (∀ g, a.guard = some g → Compiles g) ∧
        checkActions states (a.id :: seen) rest = .ok () := by
  rw [checkActions]
  by_cases hempty : a.id = ""
  · simp [hempty]
  by_cases hstate : a.id ∈ states
  · simp [hempty, hstate]
  by_cases hseen : a.id ∈ seen
  · simp [hempty, hstate, hseen]
  cases hguard : a.guard with
  | none => simp [hempty, hstate, hseen]
  | some g =>
      cases hparse : Expr.parse g with
      | error e => simp [hempty, hstate, hseen, compiles_iff, hparse]
      | ok e => simp [hempty, hstate, hseen, compiles_iff, hparse]

theorem checkActions_iff {states seen : List String} {actions : List Action} :
    checkActions states seen actions = .ok () ↔
      Fresh seen (actions.map (·.id)) ∧ (∀ a ∈ actions, a.id ∉ states) ∧
        (∀ a ∈ actions, a.id ≠ "") ∧ ∀ a ∈ actions, ∀ g, a.guard = some g → Compiles g := by
  induction actions generalizing seen with
  | nil => simp [checkActions, Fresh]
  | cons a rest ih =>
      simp only [checkActions_cons, List.map_cons, fresh_cons, List.forall_mem_cons, ih]
      tauto

theorem checkConstraints_iff {seen : List String} {constraints : List Constraint} :
    checkConstraints seen constraints = .ok () ↔
      Fresh seen (constraints.map (·.id)) ∧ ∀ c ∈ constraints, Compiles c.expr := by
  induction constraints generalizing seen with
  | nil => simp [checkConstraints, Fresh]
  | cons c rest ih =>
      rw [checkConstraints, List.map_cons, fresh_cons, List.forall_mem_cons, compiles_iff]
      by_cases hseen : c.id ∈ seen
      · simp [hseen]
      cases hparse : Expr.parse c.expr with
      | error e => simp [hseen]
      | ok e => simp [hseen, ih]

theorem checkArcs_iff {states : List StateDecl} {actions : List String} {arcs : List Arc} :
    checkArcs states actions arcs = .ok () ↔ ∀ a ∈ arcs, checkArc states actions a = .ok () := by
  refine ⟨checkArcs_ok, fun h => ?_⟩
  induction arcs with
  | nil => rfl
  | cons a rest ih =>
      obtain ⟨hone, hrest⟩ := List.forall_mem_cons.mp h
      rw [checkArcs, hone]
      exact ih hrest

/-! ### Arcs -/

section

variable {d : Definition} {a : Arc} {st : StateDecl} {intoAction : Bool}

/-- States that have distinct ids are found by them. -/
theorem find?_state_iff (hids : d.stateIds.Nodup) {id : String} :
    d.states.find? (·.id == id) = some st ↔ st ∈ d.states ∧ st.id = id := by
  constructor
  · intro h
    exact ⟨List.mem_of_find?_eq_some h, by simpa using List.find?_some h⟩
  · rintro ⟨hst, rfl⟩
    obtain ⟨found, hfind⟩ : ∃ found, d.states.find? (·.id == st.id) = some found :=
      Option.isSome_iff_exists.mp (List.find?_isSome.mpr ⟨st, hst, beq_self_eq_true st.id⟩)
    have hid : found.id = st.id := by simpa using List.find?_some hfind
    rw [hfind, List.inj_on_of_nodup_map hids (List.mem_of_find?_eq_some hfind) hst hid]

/-- The state of an arc is the one that it joins with an action, if no id has two declarations. -/
theorem arcState?_iff (hids : (d.stateIds ++ d.actionIds).Nodup) :
    arcState? d.states d.actionIds a = some (st, intoAction) ↔
      st ∈ d.states ∧ d.Joins a st intoAction := by
  obtain ⟨hstates, -, hapart⟩ := List.nodup_append.mp hids
  have hfind : ∀ id, d.states.find? (·.id == id) = some st ↔ st ∈ d.states ∧ st.id = id :=
    fun id => find?_state_iff hstates
  -- an id of a state is not that of an action, so only one of the two directions is possible
  have hnot : ∀ s ∈ d.states, s.id ∉ d.actionIds := fun s hs hmem =>
    hapart s.id (List.mem_map_of_mem hs) s.id hmem rfl
  unfold arcState? Joins
  dsimp only
  constructor
  · intro h
    split at h
    · rename_i s hsource htarget
      obtain ⟨rfl, rfl⟩ := Prod.mk.inj (Option.some.inj h)
      obtain ⟨hs, hid⟩ := (hfind a.source).mp hsource
      exact ⟨hs, hid.symm, by simpa using htarget⟩
    · rename_i s hsource htarget _
      obtain ⟨rfl, rfl⟩ := Prod.mk.inj (Option.some.inj h)
      obtain ⟨hs, hid⟩ := (hfind a.target).mp htarget
      exact ⟨hs, hid.symm, by simpa using hsource⟩
    · cases h
  · rintro ⟨hst, hjoins⟩
    cases intoAction with
    | true =>
        obtain ⟨hsource, htarget⟩ := hjoins
        rw [(hfind a.source).mpr ⟨hst, hsource.symm⟩]
        simp [htarget]
    | false =>
        obtain ⟨htarget, hsource⟩ := hjoins
        have hnotarget : a.target ∉ d.actionIds := htarget ▸ hnot st hst
        rw [(hfind a.target).mpr ⟨hst, htarget.symm⟩]
        simp [hsource, hnotarget]

theorem checkArc_iff (hids : (d.stateIds ++ d.actionIds).Nodup) :
    checkArc d.states d.actionIds a = .ok () ↔
      ∃ st ∈ d.states, ∃ intoAction, d.ValidArc a st intoAction := by
  unfold checkArc
  cases hstate : arcState? d.states d.actionIds a with
  | none =>
      refine iff_of_false (by simp) ?_
      rintro ⟨st, hst, intoAction, harc⟩
      cases hstate.symm.trans ((arcState?_iff hids).mpr ⟨hst, harc.joins⟩)
  | some found =>
      obtain ⟨st, intoAction⟩ := found
      obtain ⟨hst, hjoins⟩ := (arcState?_iff hids).mp hstate
      have hvalid : (∃ st ∈ d.states, ∃ intoAction, d.ValidArc a st intoAction) ↔
          d.ValidArc a st intoAction := by
        refine ⟨?_, fun h => ⟨st, hst, intoAction, h⟩⟩
        rintro ⟨st', hst', intoAction', harc⟩
        have hsame := hstate.symm.trans ((arcState?_iff hids).mpr ⟨hst', harc.joins⟩)
        obtain ⟨rfl, rfl⟩ := Prod.mk.inj (Option.some.inj hsame)
        exact harc
      rw [hvalid]
      dsimp only
      constructor
      · intro h
        split at h
        · cases h
        rename_i hweight
        split at h
        · cases h
        rename_i hkeys
        split at h
        · cases h
        rename_i hinhibitor
        refine ⟨hjoins, Nat.le_of_not_lt hkeys, fun htoken => ?_, fun hinhibits => ?_⟩
        · simpa [htoken] using hweight
        · simpa [hinhibits] using hinhibitor
      · rintro ⟨-, hkeys, hweight, hinhibitor⟩
        have hfew : ¬ maxArcKeys < a.keys.length := Nat.not_lt.mpr hkeys
        rw [if_neg, if_neg hfew, if_neg]
        · cases hinhibits : a.inhibitor with
          | false => simp
          | true => simp [hinhibitor hinhibits]
        · cases htoken : st.isToken with
          | false => simp
          | true => simpa using hweight htoken

end

/-! ### The whole check -/

/-- The check passes if each of its passes does. -/
theorem check_iff {d : Definition} :
    d.check = .ok () ↔
      checkStates [] d.states = .ok () ∧ checkActions d.stateIds [] d.actions = .ok () ∧
        checkArcs d.states d.actionIds d.arcs = .ok () ∧ checkConstraints [] d.constraints = .ok () := by
  unfold check
  cases checkStates [] d.states with
  | error f => simp
  | ok _ =>
      cases checkActions d.stateIds [] d.actions with
      | error f => simp
      | ok _ => cases checkArcs d.states d.actionIds d.arcs <;> simp

theorem fresh_nil {ids : List String} : Fresh [] ids ↔ ids.Nodup := by
  simp [Fresh]

theorem check_iff_valid {d : Definition} : d.check = .ok () ↔ d.Valid := by
  rw [check_iff, checkStates_iff, checkActions_iff, checkArcs_iff, checkConstraints_iff, fresh_nil,
    fresh_nil, fresh_nil]
  constructor
  · rintro ⟨⟨hstates, hnames, hcounts⟩, ⟨hactions, hapart, hactionNames, hguards⟩, harcs,
      hconstraintIds, hconstraints⟩
    have hids : (d.stateIds ++ d.actionIds).Nodup := by
      refine List.nodup_append.mpr ⟨hstates, hactions, fun x hx y hy => ?_⟩
      obtain ⟨a, ha, rfl⟩ := List.mem_map.mp hy
      rintro rfl
      exact hapart a ha hx
    refine ⟨fun id hid => ?_, hids, hcounts, hguards, hconstraints, hconstraintIds, fun a ha =>
      (checkArc_iff hids).mp (harcs a ha)⟩
    rcases List.mem_append.mp hid with hid | hid
    · obtain ⟨s, hs, rfl⟩ := List.mem_map.mp hid
      exact hnames s hs
    · obtain ⟨a, ha, rfl⟩ := List.mem_map.mp hid
      exact hactionNames a ha
  · intro h
    obtain ⟨hstates, hactions, hapart⟩ := List.nodup_append.mp h.distinct
    refine ⟨⟨hstates, fun s hs => ?_, h.counts⟩, ⟨hactions, fun a ha hmem => ?_, fun a ha => ?_,
      h.guards⟩, fun a ha => (checkArc_iff h.distinct).mpr (h.arcs a ha), h.constraintIds,
      h.constraints⟩
    · exact h.named s.id (List.mem_append_left _ (List.mem_map_of_mem hs))
    · exact hapart a.id hmem a.id (List.mem_map_of_mem ha) rfl
    · exact h.named a.id (List.mem_append_right _ (List.mem_map_of_mem ha))

end Definition

/-- **A definition becomes a schema if it is valid, and is refused as an invalid schema if it is
not.** -/
theorem Schema.ofDefinition_iff_valid (d : Definition) :
    ((∃ s, ofDefinition d = .ok s ∧ s.definition = d) ↔ d.Valid) ∧
      ((∃ cause, ofDefinition d = .error cause ∧
        (Fault.invalidSchema cause).code = .schemaValidation) ↔ ¬ d.Valid) := by
  rw [← Definition.check_iff_valid]
  cases hcheck : d.check with
  | ok _ =>
      have hok := ofDefinition_of_check hcheck
      exact ⟨iff_of_true ⟨_, hok, rfl⟩ rfl, iff_of_false (by simp [hok]) (by simp)⟩
  | error cause =>
      have herror : ofDefinition d = .error cause := by
        unfold ofDefinition
        split
        · rename_i f hf
          rw [Except.error.inj (hf.symm.trans hcheck)]
        · rename_i hok
          cases hok.symm.trans hcheck
      exact ⟨iff_of_false (by simp [herror]) (by simp), iff_of_true ⟨cause, herror, rfl⟩ (by simp)⟩

end EventNet
