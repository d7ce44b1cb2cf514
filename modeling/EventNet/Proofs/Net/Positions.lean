import EventNet.Proofs.Net.Arcs

/-!
The index of a schema finds what is declared, and nothing else.

Arcs are filed by their targets alone: an arc whose target is an action is filed under it as an input,
and any other is filed under its source as an output, whatever that source is.  The check makes this
right.  A checked arc touches exactly one action (`arc_sides`), so the arcs are dealt out to the actions
and the two sides of each without one left over or one dealt out twice, and what is no action gets none.

Two arcs may be declared alike, so all of this is said of the positions at which arcs are declared.  That
the positions of an id ascend means that its arcs come in the order of declaration and each of them once.
-/

namespace EventNet

/-- The two ways in which an arc can touch an action. -/
inductive Side where
  | input
  | output
  deriving DecidableEq

/-- The id that an arc has on a side: an input runs into its action, an output out of it. -/
def Arc.endOn (a : Arc) : Side → String
  | .input => a.target
  | .output => a.source

namespace Schema

variable {s : Schema}

/-- The positions that the index has for an id on a side. -/
def positionsOn (s : Schema) (id : String) : Side → List Nat
  | .input => Index.under s.index.inputs id
  | .output => Index.under s.index.outputs id

/-- The arcs that are found for an id on a side. -/
def arcsOn (s : Schema) (id : String) : Side → List Arc
  | .input => s.inputs id
  | .output => s.outputs id

/-! ### Arcs -/

/-- A declared arc touches exactly one action. -/
theorem arc_sides {a : Arc} (h : a ∈ s.definition.arcs) :
    a.target ∈ s.definition.actionIds ∧ a.source ∉ s.definition.actionIds ∨
      a.target ∉ s.definition.actionIds ∧ a.source ∈ s.definition.actionIds := by
  obtain ⟨st, ⟨hst, haction⟩ | ⟨hst, haction⟩, -, -⟩ := arc_checked h
  · refine Or.inl ⟨haction, fun hsource => ?_⟩
    cases hst.symm.trans (state?_eq_none_of_action hsource)
  · refine Or.inr ⟨fun htarget => ?_, haction⟩
    cases hst.symm.trans (state?_eq_none_of_action htarget)

/-- The condition by which arcs are filed under an id on a side. -/
def files (s : Schema) (id : String) : Side → Arc → Bool
  | .input, a => (Dict.ofList (Index.positions 0 s.definition.actionIds)).contains a.target &&
      a.target == id
  | .output, a => !(Dict.ofList (Index.positions 0 s.definition.actionIds)).contains a.target &&
      a.source == id

/-- Arcs are filed under the action that they touch on that side. -/
theorem files_iff {a : Arc} (h : a ∈ s.definition.arcs) (id : String) (side : Side) :
    s.files id side a = true ↔ id ∈ s.definition.actionIds ∧ a.endOn side = id := by
  have hcontains := @Index.contains_positions s.definition.actionIds a.target
  cases side with
  | input =>
      show (_ && a.target == id) = true ↔ _ ∧ a.target = id
      rw [Bool.and_eq_true, hcontains, beq_iff_eq]
      exact and_congr_left fun hid => by rw [hid]
  | output =>
      show (!_ && a.source == id) = true ↔ _ ∧ a.source = id
      rw [Bool.and_eq_true, Bool.not_eq_true', ← Bool.not_eq_true, hcontains, beq_iff_eq]
      refine and_congr_left fun hid => ?_
      rw [← hid]
      rcases arc_sides h with ⟨htarget, hsource⟩ | ⟨htarget, hsource⟩
      · exact iff_of_false (not_not_intro htarget) hsource
      · exact iff_of_true htarget hsource

theorem positionsOn_eq (s : Schema) (id : String) (side : Side) :
    s.positionsOn id side = s.definition.arcs.findIdxs (s.files id side) := by
  obtain ⟨hinputs, houtputs⟩ := Index.under_sortArcs
    (Dict.ofList (Index.positions 0 s.definition.actionIds)) id s.definition.arcs 0 [] []
  rw [← index_inputs] at hinputs
  rw [← index_outputs] at houtputs
  cases side with
  | input => exact hinputs
  | output => exact houtputs

theorem map_positionsOn (s : Schema) (id : String) (side : Side) :
    (s.positionsOn id side).map (s.definition.arcs[·]?) =
      (s.definition.arcs.filter (s.files id side)).map some := by
  rw [positionsOn_eq]
  exact Index.map_findIdxs (s.files id side) s.definition.arcs []

theorem arcsOn_eq (s : Schema) (id : String) (side : Side) :
    s.arcsOn id side = s.definition.arcs.filter (s.files id side) := by
  cases side with
  | input => exact s.inputs_eq_filter id
  | output => exact s.outputs_eq_filter id

/-- An action has the arcs that touch it, and what is no action has none. -/
theorem arcsOn_eq_ite (s : Schema) (id : String) (side : Side) :
    s.arcsOn id side = if id ∈ s.definition.actionIds
      then s.definition.arcs.filter (fun a => a.endOn side == id) else [] := by
  rw [arcsOn_eq]
  by_cases hid : id ∈ s.definition.actionIds
  · rw [if_pos hid]
    refine List.filter_congr fun a ha => ?_
    rw [Bool.eq_iff_iff, files_iff ha, beq_iff_eq]
    exact and_iff_right hid
  · rw [if_neg hid, List.filter_eq_nil_iff]
    exact fun a ha hfiled => hid ((files_iff ha id side).mp hfiled).1

/-- The positions of an id are those of the arcs that touch it, if it is an action. -/
theorem mem_positionsOn {id : String} {side : Side} {i : Nat} :
    i ∈ s.positionsOn id side ↔
      ∃ a, s.definition.arcs[i]? = some a ∧ id ∈ s.definition.actionIds ∧ a.endOn side = id := by
  rw [positionsOn_eq, List.mem_findIdxs_iff_exists_getElem_pos]
  constructor
  · rintro ⟨hi, hfiled⟩
    exact ⟨_, List.getElem?_eq_getElem hi, (files_iff (List.getElem_mem hi) id side).mp hfiled⟩
  · rintro ⟨a, ha, htouches⟩
    obtain ⟨hi, rfl⟩ := List.getElem?_eq_some_iff.mp ha
    exact ⟨hi, (files_iff (List.getElem_mem hi) id side).mpr htouches⟩

/-- Every position of an arc is filed once. -/
theorem existsUnique_position {i : Nat} (h : i < s.definition.arcs.length) :
    ∃! place : String × Side, i ∈ s.positionsOn place.1 place.2 := by
  have hget : s.definition.arcs[i]? = some s.definition.arcs[i] := List.getElem?_eq_getElem h
  -- on the side of its action, and under that action
  obtain ⟨side, haction, hother⟩ : ∃ side,
      s.definition.arcs[i].endOn side ∈ s.definition.actionIds ∧
        ∀ side', s.definition.arcs[i].endOn side' ∈ s.definition.actionIds → side' = side := by
    rcases arc_sides (List.getElem_mem h) with ⟨htarget, hsource⟩ | ⟨htarget, hsource⟩
    · refine ⟨.input, htarget, fun side' hside' => ?_⟩
      cases side' with
      | input => rfl
      | output => exact absurd hside' hsource
    · refine ⟨.output, hsource, fun side' hside' => ?_⟩
      cases side' with
      | input => exact absurd hside' htarget
      | output => rfl
  refine ⟨(s.definition.arcs[i].endOn side, side), mem_positionsOn.mpr ⟨_, hget, haction, rfl⟩, ?_⟩
  rintro ⟨id, side'⟩ hmem
  obtain ⟨a, ha, hid, hend⟩ := mem_positionsOn.mp hmem
  obtain rfl := Option.some.inj (hget.symm.trans ha)
  dsimp only at hid hend
  subst hend
  rw [hother side' hid]

/-! ### States and actions -/

end Schema

/-- The position of an id is where it stands among distinct ids. -/
theorem Index.get?_positions_iff {ids : List String} (h : ids.Nodup) {id : String} {i : Nat} :
    (Dict.ofList (positions 0 ids)).get? id = some i ↔ ids[i]? = some id := by
  refine ⟨get?_positions, fun hi => ?_⟩
  obtain ⟨j, hj⟩ := exists_get?_positions (List.mem_of_getElem? hi)
  have hlt := (List.getElem?_eq_some_iff.mp (get?_positions hj)).1
  rw [hj, (List.getElem?_inj hlt h).mp ((get?_positions hj).trans hi.symm)]

namespace Schema

variable {s : Schema}

theorem state?_iff {id : String} {st : StateDecl} :
    s.state? id = some st ↔ st ∈ s.states ∧ st.id = id := by
  refine ⟨state?_some, ?_⟩
  rintro ⟨hst, rfl⟩
  exact state?_of_mem hst

theorem action?_iff {id : String} {act : Action} :
    s.action? id = some act ↔ act ∈ s.actions ∧ act.id = id := by
  refine ⟨action?_some, ?_⟩
  rintro ⟨hact, rfl⟩
  exact action?_of_mem hact

/-! ### The index -/

/-- What is found is what is declared. -/
structure FindsDeclared (s : Schema) : Prop where
  inputs : ∀ id, s.inputs id = if id ∈ s.definition.actionIds
    then s.definition.arcs.filter (fun a => a.target == id) else []
  outputs : ∀ id, s.outputs id = if id ∈ s.definition.actionIds
    then s.definition.arcs.filter (fun a => a.source == id) else []
  /-- The arcs of an id are looked up at its positions, and there is an arc at each of them. -/
  lookedUp : ∀ id side, (s.positionsOn id side).map (s.definition.arcs[·]?) =
    (s.arcsOn id side).map some
  ascending : ∀ id side, (s.positionsOn id side).Pairwise (· < ·)
  within : ∀ id side, ∀ i ∈ s.positionsOn id side,
    i < s.definition.arcs.length ∧ id ∈ s.definition.actionIds
  /-- Every declared arc is found for one action and on one side of it only. -/
  dealtOut : ∀ i < s.definition.arcs.length,
    ∃! place : String × Side, i ∈ s.positionsOn place.1 place.2
  state : ∀ id st, s.state? id = some st ↔ st ∈ s.states ∧ st.id = id
  action : ∀ id act, s.action? id = some act ↔ act ∈ s.actions ∧ act.id = id
  /-- A position is that of the only declaration of an id, which is within the declarations. -/
  statePosition : ∀ id i, s.index.states.get? id = some i ↔ s.definition.stateIds[i]? = some id
  actionPosition : ∀ id i, s.index.actions.get? id = some i ↔ s.definition.actionIds[i]? = some id

/-- **The index is exact.**  For every schema and id, the inputs of an action are the declared arcs that
run into it and its outputs those that run out of it, in the order of declaration, and what is no action
has neither.  Every declared arc is found on one side of one action only, states and actions are found by
their ids, and every position that is looked up is that of a declaration. -/
theorem finds_declared (s : Schema) : s.FindsDeclared where
  inputs id := s.arcsOn_eq_ite id .input
  outputs id := s.arcsOn_eq_ite id .output
  lookedUp id side := by
    rw [arcsOn_eq, map_positionsOn]
  ascending id side := by
    rw [positionsOn_eq]
    exact List.pairwise_findIdxs
  within id side i hi := by
    obtain ⟨a, ha, haction, -⟩ := mem_positionsOn.mp hi
    exact ⟨(List.getElem?_eq_some_iff.mp ha).1, haction⟩
  dealtOut i hi := existsUnique_position hi
  state id st := state?_iff
  action id act := action?_iff
  statePosition id i := by
    rw [index_states]
    exact Index.get?_positions_iff s.wellFormed.states
  actionPosition id i := by
    rw [index_actions]
    exact Index.get?_positions_iff s.wellFormed.actions

end Schema

end EventNet
