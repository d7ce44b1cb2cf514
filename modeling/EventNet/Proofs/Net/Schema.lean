import EventNet.Net.Schema
import EventNet.Proofs.Dict
import Mathlib.Data.List.Nodup

/-!
What a checked schema is known to be.

A schema carries the proof that its definition passed the check.  Here that proof is taken apart: ids
are distinct, starting counts are not negative, arcs into token states weigh at least one and only
token states have inhibitors.  The index is then shown to find exactly the declarations, so that
nothing after this file looks at positions again.
-/

namespace EventNet

/-! ### The index finds declarations -/

namespace Index

theorem mem_positions {start : Nat} {ids : List String} {id : String} {i : Nat}
    (h : (id, i) ∈ positions start ids) : start ≤ i ∧ ids[i - start]? = some id := by
  induction ids generalizing start with
  | nil => simp [positions] at h
  | cons x rest ih =>
      simp only [positions, List.mem_cons, Prod.mk.injEq] at h
      rcases h with ⟨rfl, rfl⟩ | h
      · simp
      · obtain ⟨hle, hget⟩ := ih h
        refine ⟨by omega, ?_⟩
        rw [show i - start = (i - (start + 1)) + 1 by omega, List.getElem?_cons_succ, hget]

theorem exists_mem_positions (start : Nat) {ids : List String} {id : String} (h : id ∈ ids) :
    ∃ i, (id, i) ∈ positions start ids := by
  induction ids generalizing start with
  | nil => simp at h
  | cons x rest ih =>
      rcases List.mem_cons.mp h with rfl | h
      · exact ⟨start, List.mem_cons_self⟩
      · obtain ⟨i, hi⟩ := ih (start + 1) h
        exact ⟨i, List.mem_cons_of_mem _ hi⟩

theorem get?_positions {ids : List String} {id : String} {i : Nat}
    (h : (Dict.ofList (positions 0 ids)).get? id = some i) : ids[i]? = some id :=
  (mem_positions (Dict.mem_ofList (Dict.mem_of_get? h))).2

theorem exists_get?_positions {ids : List String} {id : String} (h : id ∈ ids) :
    ∃ i, (Dict.ofList (positions 0 ids)).get? id = some i :=
  let ⟨_, hi⟩ := exists_mem_positions 0 h
  Dict.get?_ofList_isSome hi

end Index

/-! ### What the check leaves -/

namespace Definition

/-- What the check asks of a state and of those after it. -/
theorem checkStates_cons {seen : List String} {s : StateDecl} {rest : List StateDecl} :
    checkStates seen (s :: rest) = .ok () ↔
      s.id.isEmpty = false ∧ s.id ∉ seen ∧
        (s.isToken = true → ∀ v, s.initial = some v → isInitialCount v = true) ∧
        checkStates (s.id :: seen) rest = .ok () := by
  rw [checkStates]
  by_cases hempty : s.id.isEmpty = true
  · simp [hempty]
  by_cases hseen : s.id ∈ seen
  · simp [hempty, hseen]
  have hfresh : ¬ seen.contains s.id = true := by simpa using hseen
  rw [if_neg hempty, if_neg hfresh]
  cases htoken : s.isToken with
  | false => simp [hempty, hseen]
  | true =>
      cases hinitial : s.initial with
      | none => simp [hempty, hseen]
      | some v =>
          by_cases hcount : isInitialCount v = true
          · simp [hempty, hseen, hcount]
          · simp [hempty, hseen, hcount]

theorem checkStates_ok {seen : List String} {states : List StateDecl}
    (h : checkStates seen states = .ok ()) :
    (states.map (·.id)).Nodup ∧ (∀ s ∈ states, s.id ∉ seen) ∧
      ∀ s ∈ states, s.isToken = true → ∀ v, s.initial = some v → isInitialCount v = true := by
  induction states generalizing seen with
  | nil => simp
  | cons s rest ih =>
      obtain ⟨-, hfresh, hcount, hrest⟩ := checkStates_cons.mp h
      obtain ⟨hnodup, hapart, hcounts⟩ := ih hrest
      refine ⟨?_, ?_, List.forall_mem_cons.mpr ⟨hcount, hcounts⟩⟩
      · rw [List.map_cons, List.nodup_cons]
        refine ⟨fun hmem => ?_, hnodup⟩
        obtain ⟨t, ht, heq⟩ := List.mem_map.mp hmem
        exact hapart t ht (by simp [heq])
      · refine List.forall_mem_cons.mpr ⟨hfresh, fun t ht hmem => ?_⟩
        exact hapart t ht (List.mem_cons_of_mem _ hmem)

theorem checkActions_ok {states seen : List String} {actions : List Action}
    (h : checkActions states seen actions = .ok ()) :
    (actions.map (·.id)).Nodup ∧ ∀ a ∈ actions, a.id ∉ seen ∧ a.id ∉ states := by
  induction actions generalizing seen with
  | nil => simp
  | cons a rest ih =>
      have hstep : (a.id ∉ seen ∧ a.id ∉ states) ∧
          checkActions states (a.id :: seen) rest = .ok () := by
        unfold checkActions at h
        split at h
        · simp at h
        split at h
        · simp at h
        rename_i hstate
        split at h
        · simp at h
        rename_i hseen
        refine ⟨⟨by simpa using hseen, by simpa using hstate⟩, ?_⟩
        split at h
        · simp at h
        · exact h
      obtain ⟨hfresh, hrest⟩ := hstep
      obtain ⟨hnodup, hapart⟩ := ih hrest
      refine ⟨?_, ?_⟩
      · rw [List.map_cons, List.nodup_cons]
        refine ⟨fun hmem => ?_, hnodup⟩
        obtain ⟨b, hb, heq⟩ := List.mem_map.mp hmem
        exact (hapart b hb).1 (by simp [heq])
      · intro b hb
        rcases List.mem_cons.mp hb with rfl | hb
        · exact hfresh
        · exact ⟨fun hmem => (hapart b hb).1 (List.mem_cons_of_mem _ hmem), (hapart b hb).2⟩

theorem checkArcs_ok {states : List StateDecl} {actions : List String} {arcs : List Arc}
    (h : checkArcs states actions arcs = .ok ()) :
    ∀ a ∈ arcs, checkArc states actions a = .ok () := by
  induction arcs with
  | nil => simp
  | cons a rest ih =>
      unfold checkArcs at h
      split at h
      · simp at h
      rename_i hone
      intro b hb
      rcases List.mem_cons.mp hb with rfl | hb
      · exact hone
      · exact ih h b hb

/-- What a definition that passed the check is known to be. -/
structure WellFormed (d : Definition) : Prop where
  states : (d.states.map (·.id)).Nodup
  actions : (d.actions.map (·.id)).Nodup
  /-- No action has the id of a state. -/
  apart : ∀ a ∈ d.actions, a.id ∉ d.stateIds
  counts : ∀ s ∈ d.states, s.isToken = true → ∀ v, s.initial = some v → isInitialCount v = true
  arcs : ∀ a ∈ d.arcs, checkArc d.states d.actionIds a = .ok ()

theorem wellFormed_of_check {d : Definition} (h : d.check = .ok ()) : d.WellFormed := by
  unfold check at h
  split at h
  · simp at h
  rename_i hstates
  split at h
  · simp at h
  rename_i hactions
  split at h
  · simp at h
  rename_i harcs
  obtain ⟨hsn, -, hcounts⟩ := checkStates_ok hstates
  obtain ⟨han, hapart⟩ := checkActions_ok hactions
  exact ⟨hsn, han, fun a ha => (hapart a ha).2, hcounts, checkArcs_ok harcs⟩

/-- Whether a definition passes the check can be computed. -/
theorem check_of_isOk {d : Definition} (h : d.check.isOk = true) : d.check = .ok () := by
  cases hcheck : d.check with
  | ok _ => rfl
  | error f =>
      rw [hcheck] at h
      exact nomatch (show (Except.error f : Except SchemaFault Unit).isOk = true from h)

end Definition

/-! ### Declarations by id -/

namespace Schema

variable {s : Schema}

theorem wellFormed (s : Schema) : s.definition.WellFormed :=
  Definition.wellFormed_of_check s.checked

theorem index_states (s : Schema) :
    s.index.states = Dict.ofList (Index.positions 0 s.definition.stateIds) := by
  rw [s.indexed]
  rfl

theorem index_actions (s : Schema) :
    s.index.actions = Dict.ofList (Index.positions 0 s.definition.actionIds) := by
  rw [s.indexed]
  rfl

theorem index_inputs (s : Schema) :
    s.index.inputs = (Index.sortArcs (Dict.ofList (Index.positions 0 s.definition.actionIds)) 0 [] []
      s.definition.arcs).1 := by
  rw [s.indexed]
  rfl

theorem state?_some {id : String} {st : StateDecl} (h : s.state? id = some st) :
    st ∈ s.states ∧ st.id = id := by
  unfold state? at h
  rw [index_states] at h
  obtain ⟨i, hi, hst⟩ := Option.bind_eq_some_iff.mp h
  have hid := Index.get?_positions hi
  rw [Definition.stateIds, List.getElem?_map, hst] at hid
  exact ⟨List.mem_of_getElem? hst, Option.some.inj hid⟩

theorem state?_of_mem {st : StateDecl} (h : st ∈ s.states) : s.state? st.id = some st := by
  have hin : st.id ∈ s.definition.stateIds := List.mem_map_of_mem h
  obtain ⟨i, hi⟩ := Index.exists_get?_positions hin
  have hid := Index.get?_positions hi
  rw [Definition.stateIds, List.getElem?_map] at hid
  obtain ⟨t, ht, heq⟩ := Option.map_eq_some_iff.mp hid
  have hfound : s.state? st.id = some t := by
    unfold state?
    rw [index_states, hi]
    exact ht
  rw [hfound, List.inj_on_of_nodup_map s.wellFormed.states (List.mem_of_getElem? ht) h heq]

theorem action?_some {id : String} {a : Action} (h : s.action? id = some a) :
    a ∈ s.actions ∧ a.id = id := by
  unfold action? at h
  rw [index_actions] at h
  obtain ⟨i, hi, ha⟩ := Option.bind_eq_some_iff.mp h
  have hid := Index.get?_positions hi
  rw [Definition.actionIds, List.getElem?_map, ha] at hid
  exact ⟨List.mem_of_getElem? ha, Option.some.inj hid⟩

theorem action?_of_mem {a : Action} (h : a ∈ s.actions) : s.action? a.id = some a := by
  have hin : a.id ∈ s.definition.actionIds := List.mem_map_of_mem h
  obtain ⟨i, hi⟩ := Index.exists_get?_positions hin
  have hid := Index.get?_positions hi
  rw [Definition.actionIds, List.getElem?_map] at hid
  obtain ⟨b, hb, heq⟩ := Option.map_eq_some_iff.mp hid
  have hfound : s.action? a.id = some b := by
    unfold action?
    rw [index_actions, hi]
    exact hb
  rw [hfound, List.inj_on_of_nodup_map s.wellFormed.actions (List.mem_of_getElem? hb) h heq]

end Schema

end EventNet
