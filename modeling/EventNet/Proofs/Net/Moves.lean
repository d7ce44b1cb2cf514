import EventNet.Proofs.Net.Firing

/-!
What an action makes of counts.

Tokens are moved by the arcs alone.  What a firing makes of the counts is a function of the counts
before, `Schema.moveTokens`: it does not depend on bindings, on data or on what is tested, and without
bindings it is all that a firing does.
-/

namespace EventNet

/-- Add to the count of a state. -/
def Dict.shift (tokens : Dict Int) (state : String) (n : Int) : Dict Int :=
  tokens.insert state (Word.wrap ((tokens.get? state).getD 0 + n))

theorem Marking.addTokens_eq (m : Marking) (state : String) (n : Int) :
    m.addTokens state n = { m with tokens := m.tokens.shift state n } :=
  rfl

namespace Schema

/-- Whether an id is that of a token state. -/
def isTokenState (s : Schema) (id : String) : Bool :=
  (s.state? id).any (·.isToken)

/-- Counts after an input arc. -/
def take (s : Schema) (tokens : Dict Int) (a : Arc) : Dict Int :=
  if s.isTokenState a.source = true ∧ a.inhibitor = false then tokens.shift a.source (-a.weight)
  else tokens

/-- Counts after an output arc. -/
def give (s : Schema) (tokens : Dict Int) (a : Arc) : Dict Int :=
  if s.isTokenState a.target = true then tokens.shift a.target a.weight else tokens

/-- Counts after all arcs of an action, inputs first. -/
def moveTokens (s : Schema) (action : String) (tokens : Dict Int) : Dict Int :=
  (s.outputs action).foldl s.give ((s.inputs action).foldl s.take tokens)

variable {s : Schema} {action state : String} {tokens : Dict Int}

theorem isTokenState_iff : s.isTokenState state = true ↔
    ∃ st, s.state? state = some st ∧ st.isToken = true := by
  unfold isTokenState
  cases s.state? state <;> simp

/-- What every arc that moves tokens keeps, the action keeps. -/
theorem moveTokens_induction {P : Dict Int → Prop} (h : P tokens)
    (htake : ∀ a ∈ s.inputs action, s.isTokenState a.source = true → a.inhibitor = false →
      ∀ t, P t → P (t.shift a.source (-a.weight)))
    (hgive : ∀ a ∈ s.outputs action, s.isTokenState a.target = true →
      ∀ t, P t → P (t.shift a.target a.weight)) : P (s.moveTokens action tokens) := by
  have htaken : P ((s.inputs action).foldl s.take tokens) := by
    refine List.foldlRecOn _ _ h fun t ht a ha => ?_
    unfold take
    split
    · rename_i hmoves
      exact htake a ha hmoves.1 hmoves.2 t ht
    · exact ht
  refine List.foldlRecOn _ _ htaken fun t ht a ha => ?_
  unfold give
  split
  · rename_i htoken
    exact hgive a ha htoken t ht
  · exact ht

end Schema

namespace Net

variable {s : Schema} {action : String} {bindings : Option Bindings} {m after : Marking} {a : Arc}

theorem run_takeInput_none :
    (takeInput s action none a).run m = (.ok (), { m with tokens := s.take m.tokens a }) := by
  rw [run_takeInput]
  unfold Schema.take Schema.isTokenState
  cases hst : s.state? a.source with
  | none => simp
  | some st =>
      have hid := (Schema.state?_some hst).2
      by_cases ht : st.isToken = true <;> by_cases hi : a.inhibitor = true <;>
        simp [ht, hi, hid, Marking.addTokens_eq]

theorem run_giveOutput_none :
    (giveOutput s action none a).run m = (.ok (), { m with tokens := s.give m.tokens a }) := by
  rw [run_giveOutput]
  unfold Schema.give Schema.isTokenState
  cases hst : s.state? a.target with
  | none => simp
  | some st =>
      have hid := (Schema.state?_some hst).2
      by_cases ht : st.isToken = true <;> simp [ht, hid, Marking.addTokens_eq]

/-- An arc that has not failed has moved its number of tokens or left the counts alone. -/
theorem counts_of_did {id : String} {moved : Option Int} {add : Bool}
    (h : a.Did s id moved add bindings m after) :
    (after.tokens = m.tokens ∧ (s.isTokenState id = false ∨ moved = none)) ∨
      ∃ n, moved = some n ∧ s.isTokenState id = true ∧ after = m.addTokens id n := by
  unfold Schema.isTokenState
  cases h with
  | loose hstate => exact Or.inl ⟨rfl, Or.inl (by simp [hstate])⟩
  | tested st hstate htoken hmoved => exact Or.inl ⟨rfl, Or.inr hmoved⟩
  | counted st n hstate htoken hmoved => exact Or.inr ⟨n, hmoved, by simp [hstate, htoken], rfl⟩
  | unbound st hstate hdata => exact Or.inl ⟨rfl, Or.inl (by simp [hstate, hdata])⟩
  | kept st b hstate hdata => exact Or.inl ⟨rfl, Or.inl (by simp [hstate, hdata])⟩
  | changed st b v hstate hdata => exact Or.inl ⟨rfl, Or.inl (by simp [hstate, hdata])⟩

/-- With bindings an input arc leads to the same counts. -/
theorem tokens_of_takeInput (h : (takeInput s action bindings a).run m = (.ok (), after)) :
    after.tokens = s.take m.tokens a := by
  unfold Schema.take
  by_cases hi : a.inhibitor = true
  · rcases counts_of_did (did_of_takeInput h) with ⟨hsame, -⟩ | ⟨n, hmoved, -⟩
    · simp [hsame, hi]
    · simp [hi] at hmoved
  · rcases counts_of_did (did_of_takeInput h) with ⟨hsame, hnone⟩ | ⟨n, hmoved, htoken, rfl⟩
    · simp [hsame, hnone.resolve_right (by simp [hi])]
    · obtain rfl : -a.weight = n := by simpa [hi] using hmoved
      simp [htoken, hi, Marking.addTokens_eq]

/-- With bindings an output arc leads to the same counts. -/
theorem tokens_of_giveOutput (h : (giveOutput s action bindings a).run m = (.ok (), after)) :
    after.tokens = s.give m.tokens a := by
  unfold Schema.give
  rcases counts_of_did (did_of_giveOutput h) with ⟨hsame, hnone⟩ | ⟨n, hmoved, htoken, rfl⟩
  · simp [hsame, hnone.resolve_right (by simp)]
  · obtain rfl := Option.some.inj hmoved
    simp [htoken, Marking.addTokens_eq]

/-- Where every arc changes the counts as a function of them, so does a list of arcs. -/
theorem tokens_of_eachArc {act : Arc → Update Unit} {f : Dict Int → Arc → Dict Int}
    (hact : ∀ a m after, (act a).run m = (.ok (), after) → after.tokens = f m.tokens a) :
    ∀ (arcs : List Arc) (m : Marking), (eachArc act arcs).run m = (.ok (), after) →
      after.tokens = arcs.foldl f m.tokens := by
  intro arcs
  induction arcs with
  | nil =>
      intro m h
      rw [← (Prod.mk.inj h).2, List.foldl_nil]
  | cons a rest ih =>
      intro m h
      rw [run_eachArc_cons] at h
      split at h
      · rename_i mid hmid
        rw [ih mid h, hact a m mid hmid, List.foldl_cons]
      · exact absurd (Prod.mk.inj h).1 (by simp)

theorem run_eachArc_of_tokens {act : Arc → Update Unit} {f : Dict Int → Arc → Dict Int}
    (hact : ∀ a m, (act a).run m = (.ok (), { m with tokens := f m.tokens a })) :
    ∀ (arcs : List Arc) (m : Marking),
      (eachArc act arcs).run m = (.ok (), { m with tokens := arcs.foldl f m.tokens }) := by
  intro arcs
  induction arcs with
  | nil =>
      intro m
      rfl
  | cons a rest ih =>
      intro m
      rw [run_eachArc_cons, hact]
      exact ih _

/-- Whatever the bindings are, an action that goes through leads to the same counts. -/
theorem tokens_of_move (h : (move s action bindings).run m = (.ok (), after)) :
    after.tokens = s.moveTokens action m.tokens := by
  rw [run_move] at h
  split at h
  · rename_i mid hmid
    have htaken : mid.tokens = (s.inputs action).foldl s.take m.tokens :=
      tokens_of_eachArc (fun a m after => tokens_of_takeInput) _ m hmid
    have hgiven : after.tokens = (s.outputs action).foldl s.give mid.tokens :=
      tokens_of_eachArc (fun a m after => tokens_of_giveOutput) _ mid h
    rw [hgiven, htaken]
    rfl
  · exact absurd (Prod.mk.inj h).1 (by simp)

/-- Without bindings an action goes through and leaves the data. -/
theorem run_move_none (s : Schema) (action : String) (m : Marking) :
    (move s action none).run m =
      (.ok (), { m with tokens := s.moveTokens action m.tokens }) := by
  rw [run_move, run_eachArc_of_tokens fun a m => run_takeInput_none]
  exact run_eachArc_of_tokens (fun a m => run_giveOutput_none) _ _

end Net

end EventNet
