import EventNet.Proofs.Expr.Asking
import EventNet.Proofs.Net.Rollback

/-!
Absent counts, and counts of zero.

A marking can lack the count of a token state, as one that was saved before the state was declared.
Wherever a net looks at a count itself, an absent one is zero: in the test whether an action is enabled,
in what arcs make of counts, and in the counts it is to reach.  So two markings of which one is `Padded`
with zeros are led to such markings again, arc by arc.

The evaluator is handed the entries that are there.  It finds a zero in the one marking and nothing in
the other, and a guard or a constraint that mentions the state is a failure there.  A call has the same
outcome on both markings exactly if the evaluator gives the same answers where the call asks for them,
and expressions do if they do not look at what is lacking: `Schema.absent_as_zero`.
-/

namespace EventNet

/-! ### Markings with zeros added -/

namespace Marking

/-- A token state without a count. -/
def Lacks (m : Marking) (s : Schema) (state : String) : Prop :=
  s.isTokenState state = true ∧ m.tokens.get? state = none

/-- The marking with a count of zero for each token state that it lacks. -/
def filled (m : Marking) (s : Schema) : Marking :=
  let zeros := (s.states.filter (·.isToken)).map fun st => (st.id, (0 : Int))
  { m with tokens := (Dict.ofList zeros).insertAll m.tokens }

/-- The second marking has the entries of the first one, and some zeros where that lacks a count. -/
structure Padded (s : Schema) (m n : Marking) : Prop where
  data : n.data = m.data
  entry : ∀ state, n.tokens.get? state = m.tokens.get? state ∨
    m.Lacks s state ∧ n.tokens.get? state = some 0
  counts : SameCounts m.tokens n.tokens

variable {s : Schema} {m n : Marking}

/-- Zeros are what is added to the entries. -/
theorem get?_filled (h : m.tokens.Sorted) (state : String) :
    (m.filled s).tokens.get? state =
      (m.tokens.get? state).or (if s.isTokenState state = true then some 0 else none) := by
  unfold filled
  dsimp only
  rw [Dict.get?_insertAll h]
  refine congrArg (Option.or _) ?_
  split
  · rename_i htoken
    obtain ⟨st, hst, hkind⟩ := Schema.isTokenState_iff.mp htoken
    obtain ⟨hmem, rfl⟩ := Schema.state?_some hst
    have hzero : (st.id, (0 : Int)) ∈ (s.states.filter (·.isToken)).map fun st => (st.id, (0 : Int)) :=
      List.mem_map.mpr ⟨st, List.mem_filter.mpr ⟨hmem, hkind⟩, rfl⟩
    obtain ⟨k, hk⟩ := Dict.get?_ofList_isSome hzero
    obtain ⟨other, -, heq⟩ := List.mem_map.mp (Dict.mem_ofList (Dict.mem_of_get? hk))
    rw [hk, ← (Prod.mk.inj heq).2]
  · rename_i hother
    refine Dict.get?_eq_none_of_notMem fun e he hstate => hother ?_
    obtain ⟨st, hst, rfl⟩ := List.mem_map.mp (Dict.mem_ofList he)
    obtain ⟨hmem, hkind⟩ := List.mem_filter.mp hst
    exact Schema.isTokenState_iff.mpr ⟨st, hstate ▸ Schema.state?_of_mem hmem, hkind⟩

theorem padded_filled (s : Schema) (h : m.tokens.Sorted) : Padded s m (m.filled s) := by
  refine ⟨rfl, fun state => ?_, h, (Dict.sorted_ofList _).insertAll _, fun state => ?_⟩
  · rw [get?_filled h]
    unfold Lacks
    cases m.tokens.get? state <;> cases s.isTokenState state <;> simp
  · rw [get?_filled h]
    cases m.tokens.get? state <;> cases s.isTokenState state <;> simp

/-- No token state is lacking then. -/
theorem not_lacks_filled (h : m.tokens.Sorted) (state : String) : ¬ (m.filled s).Lacks s state := by
  rintro ⟨htoken, hnone⟩
  rw [get?_filled h, if_pos htoken] at hnone
  cases hcount : m.tokens.get? state <;> simp [hcount] at hnone

theorem Padded.count (h : Padded s m n) (state : String) : n.count state = m.count state :=
  (h.counts.count state).symm

theorem Padded.get?_of_not_lacks (h : Padded s m n) {state : String} (hstate : ¬ m.Lacks s state) :
    m.tokens.get? state = n.tokens.get? state :=
  ((h.entry state).resolve_right fun hzero => hstate hzero.1).symm

theorem Padded.addTokens (h : Padded s m n) (state : String) (k : Int) :
    Padded s (m.addTokens state k) (n.addTokens state k) := by
  have hentry : ∀ other, (n.addTokens state k).tokens.get? other =
      (m.addTokens state k).tokens.get? other ∨
        (m.addTokens state k).Lacks s other ∧ (n.addTokens state k).tokens.get? other = some 0 := by
    intro other
    unfold Lacks Marking.addTokens
    dsimp only
    rw [Dict.get?_insert, Dict.get?_insert, h.count state]
    by_cases hother : state = other
    · simp [hother]
    · rw [if_neg hother, if_neg hother]
      exact h.entry other
  refine ⟨h.data, hentry, h.counts.sorted.insert _ _, h.counts.sortedToo.insert _ _, fun other => ?_⟩
  rcases hentry other with hsame | ⟨⟨-, hnone⟩, hzero⟩
  · rw [hsame]
  · rw [hnone, hzero]
    rfl

theorem Padded.setValue (h : Padded s m n) (state : String) (v : Value) :
    Padded s (m.setValue state v) (n.setValue state v) := by
  refine ⟨?_, h.entry, h.counts⟩
  show n.data.insert state v = m.data.insert state v
  rw [h.data]

theorem Padded.value? (h : Padded s m n) (state : String) : n.value? state = m.value? state := by
  unfold Marking.value?
  rw [h.data]

theorem Padded.matchesTokens (h : Padded s m n) (target : Dict Int) :
    m.matchesTokens target = n.matchesTokens target := by
  unfold Marking.matchesTokens
  simp only [h.count]

end Marking

open Marking (Padded)

namespace Net

variable {s : Schema} {m n : Marking} {evaluator : Option GuardEvaluator} {checks : Bool}

/-! ### Nets on padded markings -/

theorem enabled_padded (h : Padded s m n) (action : String) :
    enabled ⟨s, m, evaluator, checks⟩ action = enabled ⟨s, n, evaluator, checks⟩ action := by
  unfold enabled allows
  simp only [h.count]

theorem enabledActions_padded (h : Padded s m n) :
    enabledActions ⟨s, m, evaluator, checks⟩ = enabledActions ⟨s, n, evaluator, checks⟩ := by
  unfold enabledActions
  simp only [enabled_padded h]

theorem transform_padded (h : Padded s m n) (action : String) (st : StateDecl) (a : Arc)
    (b : Bindings) (add : Bool) :
    Lockstep (Padded s) ((transform action st a b add).run m)
      ((transform action st a b add).run n) := by
  rw [run_transform, run_transform, h.value? st.id]
  cases a.transformed st b add (m.value? st.id) with
  | error f => exact ⟨rfl, h⟩
  | ok change =>
      cases change with
      | none => exact ⟨rfl, h⟩
      | some v => exact ⟨rfl, h.setValue st.id v⟩

theorem takeInput_padded (h : Padded s m n) (action : String) (b : Option Bindings) (a : Arc) :
    Lockstep (Padded s) ((takeInput s action b a).run m) ((takeInput s action b a).run n) := by
  rw [run_takeInput, run_takeInput]
  cases s.state? a.source with
  | none => exact ⟨rfl, h⟩
  | some st =>
      dsimp only
      by_cases htoken : st.isToken = true
      · rw [if_pos htoken, if_pos htoken]
        refine ⟨rfl, ?_⟩
        dsimp only
        split
        · exact h
        · exact h.addTokens st.id _
      · rw [if_neg htoken, if_neg htoken]
        cases b with
        | none => exact ⟨rfl, h⟩
        | some b => exact transform_padded h action st a b false

theorem giveOutput_padded (h : Padded s m n) (action : String) (b : Option Bindings) (a : Arc) :
    Lockstep (Padded s) ((giveOutput s action b a).run m) ((giveOutput s action b a).run n) := by
  rw [run_giveOutput, run_giveOutput]
  cases s.state? a.target with
  | none => exact ⟨rfl, h⟩
  | some st =>
      dsimp only
      by_cases htoken : st.isToken = true
      · rw [if_pos htoken, if_pos htoken]
        exact ⟨rfl, h.addTokens st.id _⟩
      · rw [if_neg htoken, if_neg htoken]
        cases b with
        | none => exact ⟨rfl, h⟩
        | some b => exact transform_padded h action st a b true

theorem move_padded (h : Padded s m n) (action : String) (b : Option Bindings) :
    Lockstep (Padded s) ((move s action b).run m) ((move s action b).run n) :=
  move_lockstep (fun a _ _ h => takeInput_padded h action b a)
    (fun a _ _ h => giveOutput_padded h action b a) h

end Net

end EventNet
