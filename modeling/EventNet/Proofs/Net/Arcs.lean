import EventNet.Proofs.Net.Schema

/-!
Which arcs an action has.

The index files the positions of the arcs under the action they belong to.  Here the positions are
looked up again: the input arcs of an action are the declared arcs that run into it, its output arcs
those that run out of it, each as often as it is declared and in the order of declaration.  For the
outputs the check is needed, since only a checked arc that leaves an action is known to lead to a
state and not to another action.
-/

namespace EventNet

/-! ### Filing positions -/

namespace Index

/-- The positions that are filed under an id. -/
def under (positions : Dict (List Nat)) (id : String) : List Nat :=
  (positions.get? id).getD []

/-- The arcs whose positions are filed under an id. -/
def filed (arcs : List Arc) (positions : Dict (List Nat)) (id : String) : List Arc :=
  ((positions.get? id).getD []).filterMap (arcs[·]?)

theorem under_push (positions : Dict (List Nat)) (key id : String) (i : Nat) :
    under (push positions key i) id = under positions id ++ if key = id then [i] else [] := by
  unfold under push
  rw [Dict.get?_insert]
  by_cases h : key = id
  · rw [if_pos h, if_pos h, h, Option.getD_some]
  · rw [if_neg h, if_neg h, List.append_nil]

/-- Behind the positions that were filed before, those of the arcs that belong to the id are filed. -/
theorem under_sortArcs (actions : Dict Nat) (id : String) (arcs : List Arc) :
    ∀ (start : Nat) (inputs outputs : Dict (List Nat)),
      under (sortArcs actions start inputs outputs arcs).1 id = under inputs id ++
          arcs.findIdxs (fun a => actions.contains a.target && a.target == id) start ∧
        under (sortArcs actions start inputs outputs arcs).2 id = under outputs id ++
          arcs.findIdxs (fun a => !actions.contains a.target && a.source == id) start := by
  induction arcs with
  | nil =>
      intro start inputs outputs
      simp [sortArcs]
  | cons a rest ih =>
      intro start inputs outputs
      unfold sortArcs
      by_cases hin : actions.contains a.target = true
      · rw [if_pos hin]
        obtain ⟨hinputs, houtputs⟩ := ih (start + 1) (push inputs a.target start) outputs
        rw [hinputs, houtputs, under_push]
        by_cases hid : a.target = id
        · simp [hid, hid ▸ hin]
        · simp [hin, hid]
      · rw [if_neg hin]
        obtain ⟨hinputs, houtputs⟩ := ih (start + 1) inputs (push outputs a.source start)
        rw [hinputs, houtputs, under_push]
        by_cases hid : a.source = id
        · simp [hin, hid]
        · simp [hin, hid]

/-- At the positions of the arcs that satisfy a condition there are these arcs. -/
theorem map_findIdxs (p : Arc → Bool) (rest before : List Arc) :
    (rest.findIdxs p before.length).map ((before ++ rest)[·]?) = (rest.filter p).map some := by
  induction rest generalizing before with
  | nil => rfl
  | cons a rest ih =>
      have hlater := ih (before ++ [a])
      rw [List.append_assoc, List.singleton_append, List.length_append, List.length_singleton] at hlater
      have hhere : (before ++ a :: rest)[before.length]? = some a := by simp
      by_cases ha : p a = true
      · rw [List.findIdxs_cons, if_pos ha, List.filter_cons_of_pos ha, List.map_cons, List.map_cons,
          hhere, hlater]
      · rw [List.findIdxs_cons, if_neg ha, List.filter_cons_of_neg ha, hlater]

theorem filterMap_findIdxs (p : Arc → Bool) (rest before : List Arc) :
    (rest.findIdxs p before.length).filterMap ((before ++ rest)[·]?) = rest.filter p := by
  have hread := congrArg (List.filterMap id) (map_findIdxs p rest before)
  rw [List.filterMap_map, List.filterMap_map] at hread
  exact hread.trans List.filterMap_some

/-- What is filed after some arcs is what was filed before and, in their order, those of them that
belong to the id. -/
theorem filed_sortArcs (actions : Dict Nat) (id : String) (rest before : List Arc)
    (inputs outputs : Dict (List Nat)) :
    filed (before ++ rest) (sortArcs actions before.length inputs outputs rest).1 id =
        filed (before ++ rest) inputs id ++
          rest.filter (fun a => actions.contains a.target && a.target == id) ∧
      filed (before ++ rest) (sortArcs actions before.length inputs outputs rest).2 id =
        filed (before ++ rest) outputs id ++
          rest.filter (fun a => !actions.contains a.target && a.source == id) := by
  obtain ⟨hinputs, houtputs⟩ := under_sortArcs actions id rest before.length inputs outputs
  constructor
  · show (under _ id).filterMap _ = (under inputs id).filterMap _ ++ _
    rw [hinputs, List.filterMap_append, filterMap_findIdxs]
  · show (under _ id).filterMap _ = (under outputs id).filterMap _ ++ _
    rw [houtputs, List.filterMap_append, filterMap_findIdxs]

/-- An id has a position exactly if it is among the ids. -/
theorem contains_positions {ids : List String} {id : String} :
    (Dict.ofList (positions 0 ids)).contains id = true ↔ id ∈ ids := by
  constructor
  · intro h
    obtain ⟨i, hi⟩ := Option.isSome_iff_exists.mp h
    exact List.mem_of_getElem? (get?_positions hi)
  · intro h
    obtain ⟨i, hi⟩ := exists_get?_positions h
    exact Option.isSome_iff_exists.mpr ⟨i, hi⟩

end Index

/-- The declared arcs from one id to another. -/
def Definition.between (d : Definition) (source target : String) : List Arc :=
  d.arcs.filter fun a => a.source == source && a.target == target

theorem Definition.mem_between {d : Definition} {source target : String} {a : Arc} :
    a ∈ d.between source target ↔ a ∈ d.arcs ∧ a.source = source ∧ a.target = target := by
  simp [between]

namespace Schema

variable {s : Schema} {a : Arc} {action : String}

/-! ### What an arc joins -/

/-- No state has the id of an action. -/
theorem state?_eq_none_of_action (h : action ∈ s.definition.actionIds) : s.state? action = none := by
  cases hstate : s.state? action with
  | none => rfl
  | some st =>
      obtain ⟨hst, hid⟩ := state?_some hstate
      obtain ⟨act, hact, heq⟩ := List.mem_map.mp h
      have hfresh := s.wellFormed.apart act hact
      rw [heq, ← hid] at hfresh
      exact absurd (List.mem_map_of_mem hst) hfresh

theorem state?_eq_find? (s : Schema) (id : String) :
    s.definition.states.find? (·.id == id) = s.state? id := by
  cases hfind : s.definition.states.find? (·.id == id) with
  | none =>
      cases hstate : s.state? id with
      | none => rfl
      | some st =>
          obtain ⟨hst, hid⟩ := state?_some hstate
          exact absurd hid (by simpa using List.find?_eq_none.mp hfind st hst)
  | some st =>
      have hid : st.id = id := by simpa using List.find?_some hfind
      rw [← hid, state?_of_mem (List.mem_of_find?_eq_some hfind)]

/-- A declared arc joins a state and an action, weighs something if the state has tokens, and has no more
keys than allowed. -/
theorem arc_checked (h : a ∈ s.definition.arcs) :
    ∃ st, (s.state? a.source = some st ∧ a.target ∈ s.definition.actionIds ∨
        s.state? a.target = some st ∧ a.source ∈ s.definition.actionIds) ∧
      (st.isToken = true → 1 ≤ a.weight) ∧ a.keys.length ≤ maxArcKeys := by
  have hchecked := s.wellFormed.arcs a h
  unfold Definition.checkArc Definition.arcState? at hchecked
  rw [state?_eq_find?, state?_eq_find?] at hchecked
  split at hchecked
  · cases hchecked
  · rename_i st into hjoins
    have hbounds : (st.isToken = true → 1 ≤ a.weight) ∧ a.keys.length ≤ maxArcKeys := by
      by_cases hweight : (st.isToken && decide (a.weight < 1)) = true
      · rw [if_pos hweight] at hchecked
        cases hchecked
      · rw [if_neg hweight] at hchecked
        by_cases hkeys : maxArcKeys < a.keys.length
        · rw [if_pos hkeys] at hchecked
          cases hchecked
        · refine ⟨?_, Nat.le_of_not_lt hkeys⟩
          intro htoken
          simpa [htoken] using hweight
    refine ⟨st, ?_, hbounds⟩
    simp only at hjoins
    split at hjoins
    · rename_i source hsource htarget
      obtain ⟨rfl, -⟩ := Prod.mk.inj (Option.some.inj hjoins)
      exact Or.inl ⟨hsource, by simpa using htarget⟩
    · rename_i target hsource htarget _
      obtain ⟨rfl, -⟩ := Prod.mk.inj (Option.some.inj hjoins)
      exact Or.inr ⟨htarget, by simpa using hsource⟩
    · cases hjoins

/-- What leaves an action leads to a state. -/
theorem state?_target (h : a ∈ s.definition.arcs) (hsource : a.source ∈ s.definition.actionIds) :
    ∃ st, s.state? a.target = some st := by
  obtain ⟨st, ⟨hst, -⟩ | ⟨hst, -⟩, -, -⟩ := arc_checked h
  · rw [state?_eq_none_of_action hsource] at hst
    cases hst
  · exact ⟨st, hst⟩

/-- What runs into an action comes from a state. -/
theorem state?_source (h : a ∈ s.definition.arcs) (htarget : a.target ∈ s.definition.actionIds) :
    ∃ st, s.state? a.source = some st := by
  obtain ⟨st, ⟨hst, -⟩ | ⟨hst, -⟩, -, -⟩ := arc_checked h
  · exact ⟨st, hst⟩
  · rw [state?_eq_none_of_action htarget] at hst
    cases hst

/-- An arc out of a token state weighs at least one. -/
theorem weight_pos {st : StateDecl} (h : a ∈ s.definition.arcs) (hst : s.state? a.source = some st)
    (htoken : st.isToken = true) : 1 ≤ a.weight := by
  obtain ⟨st', ⟨hst', -⟩ | ⟨-, haction⟩, hweight, -⟩ := arc_checked h
  · obtain rfl := Option.some.inj (hst'.symm.trans hst)
    exact hweight htoken
  · rw [state?_eq_none_of_action haction] at hst
    cases hst

/-! ### Inputs and outputs -/

theorem index_outputs (s : Schema) :
    s.index.outputs = (Index.sortArcs (Dict.ofList (Index.positions 0 s.definition.actionIds)) 0 [] []
      s.definition.arcs).2 := by
  rw [s.indexed]
  rfl

/-- The input arcs of an action are the declared arcs that run into it. -/
theorem inputs_eq_filter (s : Schema) (action : String) :
    s.inputs action = s.definition.arcs.filter fun a =>
      (Dict.ofList (Index.positions 0 s.definition.actionIds)).contains a.target &&
        a.target == action := by
  have hfiled := (Index.filed_sortArcs (Dict.ofList (Index.positions 0 s.definition.actionIds)) action
    s.definition.arcs [] [] []).1
  rw [List.nil_append, List.length_nil, ← index_inputs] at hfiled
  exact hfiled

/-- The output arcs of an action are the declared arcs that run out of it and into no action. -/
theorem outputs_eq_filter (s : Schema) (action : String) :
    s.outputs action = s.definition.arcs.filter fun a =>
      !(Dict.ofList (Index.positions 0 s.definition.actionIds)).contains a.target &&
        a.source == action := by
  have hfiled := (Index.filed_sortArcs (Dict.ofList (Index.positions 0 s.definition.actionIds)) action
    s.definition.arcs [] [] []).2
  rw [List.nil_append, List.length_nil, ← index_outputs] at hfiled
  exact hfiled

theorem mem_inputs (h : a ∈ s.inputs action) :
    a ∈ s.definition.arcs ∧ a.target = action ∧ action ∈ s.definition.actionIds := by
  rw [inputs_eq_filter, List.mem_filter, Bool.and_eq_true, beq_iff_eq] at h
  obtain ⟨harc, hin, rfl⟩ := h
  exact ⟨harc, rfl, Index.contains_positions.mp hin⟩

theorem mem_outputs (h : a ∈ s.outputs action) : a ∈ s.definition.arcs := by
  rw [outputs_eq_filter] at h
  exact List.mem_of_mem_filter h

theorem inputs_eq (h : action ∈ s.definition.actionIds) :
    s.inputs action = s.definition.arcs.filter (fun a => a.target == action) := by
  rw [inputs_eq_filter]
  refine List.filter_congr fun a _ => ?_
  by_cases hid : a.target = action
  · simp [hid, Index.contains_positions.mpr h]
  · simp [hid]

/-- A declared arc that runs out of an action runs into no other. -/
theorem outputs_eq (h : action ∈ s.definition.actionIds) :
    s.outputs action = s.definition.arcs.filter (fun a => a.source == action) := by
  rw [outputs_eq_filter]
  refine List.filter_congr fun a ha => ?_
  by_cases hid : a.source = action
  · obtain ⟨st, hst⟩ := state?_target ha (hid ▸ h)
    have hnot : (Dict.ofList (Index.positions 0 s.definition.actionIds)).contains a.target ≠ true := by
      intro hin
      rw [state?_eq_none_of_action (Index.contains_positions.mp hin)] at hst
      cases hst
    simp [hid, hnot]
  · simp [hid]

theorem inputs_from (h : action ∈ s.definition.actionIds) (state : String) :
    (s.inputs action).filter (fun a => a.source == state) = s.definition.between state action := by
  rw [inputs_eq h, List.filter_filter]
  rfl

theorem outputs_to (h : action ∈ s.definition.actionIds) (state : String) :
    (s.outputs action).filter (fun a => a.target == state) = s.definition.between action state := by
  rw [outputs_eq h, List.filter_filter]
  exact List.filter_congr fun a _ => Bool.and_comm _ _

end Schema

end EventNet
