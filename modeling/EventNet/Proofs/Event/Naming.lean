import EventNet.Engine.Basic
import EventNet.Proofs.Net.Schema
import Mathlib.Data.List.Nodup

/-!
The table of event types.

The table of a schema leads from each declared action to its event type, and from each event type to the
first declared action that has it.  Later actions of a type are entered without taking the type over.  So
an action comes back from its event type exactly if no action before it has the type, and an engine replays
an event as the first action of its type, whichever action has written it.  That types differ is not
checked when a schema is made: `approve` and `approved` are both past as `Approved`.
-/

namespace EventNet

/-- The first action with an event type. -/
def Schema.firstOf? (s : Schema) (type : String) : Option Action :=
  s.actions.find? (EventTypes.declared · == type)

namespace EventTypes

theorem byAction_enter (t : EventTypes) (a : Action) :
    (t.enter a).value.byAction = t.byAction.insert a.id (declared a) := by
  unfold enter
  dsimp only
  split <;> rfl

theorem byEvent_enter (t : EventTypes) (a : Action) (type : String) :
    (t.enter a).value.byEvent.get? type =
      (t.byEvent.get? type).or (if declared a = type then some a.id else none) := by
  unfold enter
  by_cases htaken : t.byEvent.contains (declared a) = true
  · simp only [if_pos htaken]
    by_cases hown : declared a = type
    · obtain ⟨id, hid⟩ := Option.isSome_iff_exists.mp htaken
      rw [if_pos hown, ← hown, hid]
      rfl
    · rw [if_neg hown, Option.or_none]
  · have hfree : t.byEvent.get? (declared a) = none := by
      simpa [Dict.contains] using htaken
    simp only [if_neg htaken]
    show (t.byEvent.insert (declared a) a.id).get? type = _
    rw [Dict.get?_insert]
    by_cases hown : declared a = type
    · rw [if_pos hown, if_pos hown, ← hown, hfree]
      rfl
    · rw [if_neg hown, if_neg hown, Option.or_none]

/-- A type belongs to the action that had it before, or else to the first that is entered with it. -/
theorem byEvent_enterAll (t : EventTypes) (actions : List Action) (type : String) :
    (t.enterAll actions).value.byEvent.get? type =
      (t.byEvent.get? type).or ((actions.find? (declared · == type)).map (·.id)) := by
  induction actions generalizing t with
  | nil => exact (Option.or_none).symm
  | cons a rest ih =>
      have hvalue : (t.enterAll (a :: rest)).value = ((t.enter a).value.enterAll rest).value := rfl
      rw [hvalue, ih, byEvent_enter, Option.or_assoc, List.find?_cons]
      by_cases hown : declared a = type
      · rw [if_pos hown, beq_iff_eq.mpr hown]
        rfl
      · rw [if_neg hown, beq_false_of_ne hown]
        rfl

theorem byAction_enterAll_of_notMem (t : EventTypes) {actions : List Action} {id : String}
    (h : id ∉ actions.map (·.id)) :
    (t.enterAll actions).value.byAction.get? id = t.byAction.get? id := by
  induction actions generalizing t with
  | nil => rfl
  | cons a rest ih =>
      rw [List.map_cons, List.mem_cons, not_or] at h
      have hvalue : (t.enterAll (a :: rest)).value = ((t.enter a).value.enterAll rest).value := rfl
      rw [hvalue, ih _ h.2, byAction_enter, Dict.get?_insert_of_ne _ _ (Ne.symm h.1)]

/-- Every action has its type, where no two have one id. -/
theorem byAction_enterAll (t : EventTypes) {actions : List Action}
    (hids : (actions.map (·.id)).Nodup) {a : Action} (ha : a ∈ actions) :
    (t.enterAll actions).value.byAction.get? a.id = some (declared a) := by
  induction actions generalizing t with
  | nil => exact absurd ha List.not_mem_nil
  | cons b rest ih =>
      rw [List.map_cons, List.nodup_cons] at hids
      have hvalue : (t.enterAll (b :: rest)).value = ((t.enter b).value.enterAll rest).value := rfl
      rw [hvalue]
      rcases List.mem_cons.mp ha with rfl | ha
      · rw [byAction_enterAll_of_notMem _ hids.1, byAction_enter, Dict.get?_insert_self]
      · exact ih _ hids.2 ha

/-! ### The table of a schema -/

variable {s : Schema}

theorem eventType_of_mem {a : Action} (ha : a ∈ s.actions) :
    (ofSchema s).value.eventType a.id = declared a := by
  have hids : (s.actions.map (·.id)).Nodup := s.wellFormed.actions
  unfold eventType ofSchema
  rw [byAction_enterAll _ hids ha]
  rfl

theorem action_eq (s : Schema) (type : String) :
    (ofSchema s).value.action type = ((s.firstOf? type).map (·.id)).getD (Naming.action type) := by
  unfold action ofSchema
  rw [byEvent_enterAll]
  rfl

/-- The event type of an action leads to the first action that has it. -/
theorem exists_first {a : Action} (ha : a ∈ s.actions) :
    ∃ first ∈ s.actions, s.firstOf? (declared a) = some first ∧ declared first = declared a ∧
      (ofSchema s).value.action ((ofSchema s).value.eventType a.id) = first.id := by
  have hsome : (s.firstOf? (declared a)).isSome := List.find?_isSome.mpr ⟨a, ha, beq_self_eq_true _⟩
  obtain ⟨first, hfirst⟩ := Option.isSome_iff_exists.mp hsome
  have htype : (declared first == declared a) = true :=
    List.find?_some (p := (declared · == declared a)) hfirst
  refine ⟨first, List.mem_of_find?_eq_some hfirst, hfirst, eq_of_beq htype, ?_⟩
  rw [eventType_of_mem ha, action_eq, hfirst]
  rfl

/-- The event type of an action leads back to the action, if no two actions share one. -/
theorem action_eventType (htypes : (s.actions.map declared).Nodup) {action : String} {a : Action}
    (ha : s.action? action = some a) :
    (ofSchema s).value.action ((ofSchema s).value.eventType action) = action := by
  obtain ⟨hmem, rfl⟩ := Schema.action?_some ha
  obtain ⟨first, hfirst, -, htype, haction⟩ := exists_first hmem
  rw [haction, List.inj_on_of_nodup_map htypes hfirst hmem htype]

/-- All actions come back from their event types only if these differ. -/
theorem nodup_of_round_trip
    (h : ∀ a ∈ s.actions, (ofSchema s).value.action ((ofSchema s).value.eventType a.id) = a.id) :
    (s.actions.map declared).Nodup := by
  have hids : (s.actions.map (·.id)).Nodup := s.wellFormed.actions
  refine (List.nodup_map_iff_inj_on hids.of_map).mpr fun a ha b hb heq => ?_
  refine List.inj_on_of_nodup_map hids ha hb ?_
  show a.id = b.id
  rw [← h a ha, ← h b hb, eventType_of_mem ha, eventType_of_mem hb, heq]

/-- **An event is replayed as the first action of its type.**  In every engine the event type of a declared
action leads to the first declared action that has it, and what any instance makes of an event recorded for
the action is what it makes of that first one.  All actions come back from their event types exactly if no
two have one. -/
theorem replayed_as_first (s : Schema) (evaluator : GuardEvaluator) (settings : EngineSettings) :
    (∀ a ∈ s.actions, ∃ first ∈ s.actions, s.firstOf? (declared a) = some first ∧
      (ofSchema s).value.action ((ofSchema s).value.eventType a.id) = first.id ∧
      ∀ (stamp : Stamp) (aggregate : String) (bindings : Bindings) (metadata : Option Metadata)
        (version : Int) (i : Instance),
        let e := (Engine.new s evaluator settings).value
        (i.replay e.types
          { e.eventOf stamp aggregate a.id bindings metadata with version }).value =
          { i with
            net := (i.net.executeWith first.id (Bindings.ofJson bindings.toJson)).2
            version }) ∧
    ((∀ a ∈ s.actions, (ofSchema s).value.action ((ofSchema s).value.eventType a.id) = a.id) ↔
      (s.actions.map declared).Nodup) := by
  refine ⟨fun a ha => ?_, nodup_of_round_trip, fun htypes a ha => ?_⟩
  · obtain ⟨first, hmem, hfirst, -, haction⟩ := exists_first ha
    refine ⟨first, hmem, hfirst, haction, fun stamp aggregate bindings metadata version i => ?_⟩
    rw [← haction]
    rfl
  · exact action_eventType htypes (Schema.action?_of_mem ha)

/-! #### Two words for one event -/

/-- A draft is approved and then found approved. -/
def approvals : Definition where
  name := "approvals"
  version := none
  states := [StateDecl.token "draft" 1]
  actions := [⟨"approve", none, [], none⟩, ⟨"approved", none, [], none⟩]
  arcs := [⟨"draft", "approve", 1, [], "amount", false⟩]
  constraints := []

/-- The schema of approvals. -/
def approvalsSchema : Schema :=
  ⟨approvals, .ofDefinition approvals, Definition.check_of_isOk (by decide +kernel), rfl⟩

theorem approved_replayed_as_approve :
    ∃ a ∈ approvalsSchema.actions, a.id = "approved" ∧
      (ofSchema approvalsSchema).value.action
        ((ofSchema approvalsSchema).value.eventType a.id) = "approve" :=
  ⟨⟨"approved", none, [], none⟩, by decide +kernel, rfl, by decide +kernel⟩

end EventTypes

end EventNet
