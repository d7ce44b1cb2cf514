import EventNet.Proofs.Net.Arcs
import EventNet.Proofs.Net.Moves
import EventNet.Proofs.Number
import EventNet.Proofs.Value.RoundTrip
import Mathlib.Algebra.Order.BigOperators.Group.List

/-!
When token counts stay at zero or above.

An action is tested arc by arc and fired as a whole: of two arcs out of one state each may find
enough tokens while both together take more than there is.  So a count can fall below zero, and the
first part of this file is the account of a firing, `count_moveTokens`: what all input arcs together
take goes away, what the output arcs give comes in, and the total wraps around where it does not fit 64
bits.

Two exact conditions follow for runs in which all totals fit (`ReachedWithin`).  Counts stay at zero or
above along them exactly when no successful call takes more than is held and given back (`Affords`).  And
a schema affords every successful call on any marking exactly when each action that can be enabled takes
from a state at most its largest single take and what it gives back (`Covered`); a schema whose actions
have at most one input arc from each token state is of this kind.
-/

namespace EventNet

/-! ### The largest of a list -/

section Lists

variable {l : List Int} {x n : Int}

private theorem le_foldr_max (h : x ∈ l) : x ≤ l.foldr max 0 := by
  induction l with
  | nil => simp at h
  | cons y rest ih =>
      rw [List.foldr_cons]
      rcases List.mem_cons.mp h with rfl | h
      · omega
      · have := ih h
        omega

private theorem foldr_max_nonneg (l : List Int) : 0 ≤ l.foldr max 0 := by
  induction l with
  | nil => exact Int.le_refl 0
  | cons y rest ih =>
      rw [List.foldr_cons]
      omega

private theorem foldr_max_le (hn : 0 ≤ n) (h : ∀ x ∈ l, x ≤ n) : l.foldr max 0 ≤ n := by
  induction l with
  | nil => exact hn
  | cons y rest ih =>
      rw [List.foldr_cons]
      have := h y List.mem_cons_self
      have := ih fun z hz => h z (List.mem_cons_of_mem _ hz)
      omega

end Lists

/-! ### What an action takes and gives -/

namespace Schema

/-- What an input arc takes from a token state. -/
def takes (s : Schema) (state : String) (a : Arc) : Int :=
  if a.source = state ∧ s.isTokenState state = true ∧ a.inhibitor = false then a.weight else 0

/-- What an output arc gives to a token state. -/
def gives (s : Schema) (state : String) (a : Arc) : Int :=
  if a.target = state ∧ s.isTokenState state = true then a.weight else 0

/-- What the input arcs of an action take from a token state together. -/
def taken (s : Schema) (action state : String) : Int :=
  ((s.inputs action).map (s.takes state)).sum

/-- What the output arcs of an action give to a token state together. -/
def given (s : Schema) (action state : String) : Int :=
  ((s.outputs action).map (s.gives state)).sum

/-- The most that one input arc of an action takes from a token state: what the test of the arcs asks
of it. -/
def largestTake (s : Schema) (action state : String) : Int :=
  ((s.inputs action).map (s.takes state)).foldr max 0

/-- An action that needs one state both empty and not empty. -/
def Blocked (s : Schema) (action : String) : Prop :=
  ∃ a ∈ s.inputs action, a.inhibitor = true ∧ 0 < s.taken action a.source

/-- Each action that can be enabled takes from a state at most its largest single take and what it
gives back. -/
def Covered (s : Schema) : Prop :=
  ∀ a ∈ s.actions, s.Blocked a.id ∨
    ∀ st ∈ s.states, s.taken a.id st.id ≤ s.largestTake a.id st.id + s.given a.id st.id

instance (s : Schema) (action : String) : Decidable (s.Blocked action) :=
  inferInstanceAs (Decidable (∃ a ∈ s.inputs action, a.inhibitor = true ∧ _))

instance (s : Schema) : Decidable s.Covered :=
  inferInstanceAs (Decidable (∀ a ∈ s.actions, s.Blocked a.id ∨ ∀ st ∈ s.states, _))

variable {s : Schema} {action state : String}

theorem takes_nonneg {a : Arc} (ha : a ∈ s.inputs action) : 0 ≤ s.takes state a := by
  unfold takes
  split
  · rename_i h
    obtain ⟨hsource, htoken, -⟩ := h
    obtain ⟨st, hst, ht⟩ := isTokenState_iff.mp htoken
    have := weight_pos (mem_inputs ha).1 (hsource ▸ hst) ht
    omega
  · exact Int.le_refl 0

theorem takes_le_largestTake {a : Arc} (ha : a ∈ s.inputs action) :
    s.takes state a ≤ s.largestTake action state :=
  le_foldr_max (List.mem_map_of_mem ha)

theorem largestTake_nonneg : 0 ≤ s.largestTake action state :=
  foldr_max_nonneg _

/-- A bound on every take is one on the largest. -/
theorem largestTake_le {n : Int} (hn : 0 ≤ n) (h : ∀ a ∈ s.inputs action, s.takes state a ≤ n) :
    s.largestTake action state ≤ n :=
  foldr_max_le hn fun _ hx =>
    let ⟨a, ha, heq⟩ := List.mem_map.mp hx
    heq ▸ h a ha

theorem takes_le_taken {a : Arc} (ha : a ∈ s.inputs action) :
    s.takes state a ≤ s.taken action state := by
  refine List.single_le_sum (fun x hx => ?_) _ (List.mem_map_of_mem ha)
  obtain ⟨b, hb, rfl⟩ := List.mem_map.mp hx
  exact takes_nonneg hb

/-- Nothing moves to or from what is not a token state. -/
theorem taken_eq_zero (h : s.isTokenState state ≠ true) : s.taken action state = 0 :=
  List.sum_eq_zero fun _ hx =>
    let ⟨_, _, heq⟩ := List.mem_map.mp hx
    heq ▸ if_neg fun hc => h hc.2.1

theorem given_eq_zero (h : s.isTokenState state ≠ true) : s.given action state = 0 :=
  List.sum_eq_zero fun _ hx =>
    let ⟨_, _, heq⟩ := List.mem_map.mp hx
    heq ▸ if_neg fun hc => h hc.2

end Schema

/-! ### The account of a firing -/

namespace Marking

/-- No count is below zero. -/
def Nonneg (m : Marking) : Prop :=
  ∀ e ∈ m.tokens, 0 ≤ e.2

theorem nonneg_iff {m : Marking} (h : m.tokens.Sorted) :
    m.Nonneg ↔ ∀ state, 0 ≤ m.count state := by
  constructor
  · intro hm state
    exact Dict.getD_of_forall (P := (0 ≤ ·)) hm (Int.le_refl 0) state
  · rintro hm ⟨state, n⟩ he
    have := hm state
    unfold count at this
    rwa [Dict.get?_of_mem h he] at this

end Marking

namespace Dict

theorem wrap_getD_shift (tokens : Dict Int) (id : String) (n : Int) (state : String) :
    Word.wrap (((tokens.shift id n).get? state).getD 0) =
      Word.wrap ((tokens.get? state).getD 0 + if id = state then n else 0) := by
  unfold shift
  rw [get?_insert]
  by_cases h : id = state
  · rw [if_pos h, if_pos h, h]
    exact Word.wrap_of_fits (Word.fits_wrap _)
  · rw [if_neg h, if_neg h, Int.add_zero]

theorem fits_shift {tokens : Dict Int} (h : ∀ e ∈ tokens, Word.Fits e.2) (id : String) (n : Int) :
    ∀ e ∈ tokens.shift id n, Word.Fits e.2 :=
  forall_mem_insert h id (Word.fits_wrap _)

end Dict

namespace Schema

variable {s : Schema}

theorem wrap_count_take (tokens : Dict Int) (a : Arc) (state : String) :
    Word.wrap (((s.take tokens a).get? state).getD 0) =
      Word.wrap ((tokens.get? state).getD 0 + -s.takes state a) := by
  unfold take takes
  by_cases hmoves : s.isTokenState a.source = true ∧ a.inhibitor = false
  · rw [if_pos hmoves, Dict.wrap_getD_shift]
    by_cases hstate : a.source = state
    · subst hstate
      simp [hmoves]
    · simp [hstate]
  · rw [if_neg hmoves]
    have hnone : ¬ (a.source = state ∧ s.isTokenState state = true ∧ a.inhibitor = false) := by
      rintro ⟨rfl, htakes⟩
      exact hmoves htakes
    rw [if_neg hnone]
    simp

theorem wrap_count_give (tokens : Dict Int) (a : Arc) (state : String) :
    Word.wrap (((s.give tokens a).get? state).getD 0) =
      Word.wrap ((tokens.get? state).getD 0 + s.gives state a) := by
  unfold give gives
  by_cases htoken : s.isTokenState a.target = true
  · rw [if_pos htoken, Dict.wrap_getD_shift]
    by_cases hstate : a.target = state
    · subst hstate
      simp [htoken]
    · simp [hstate]
  · rw [if_neg htoken]
    have hnone : ¬ (a.target = state ∧ s.isTokenState state = true) := by
      rintro ⟨rfl, hgives⟩
      exact htoken hgives
    rw [if_neg hnone]
    simp

/-- When each arc changes a count by its share, a list of arcs changes it by the sum. -/
theorem wrap_count_foldl {f : Dict Int → Arc → Dict Int} (share : Arc → Int) {state : String}
    (hf : ∀ t a, Word.wrap (((f t a).get? state).getD 0) =
      Word.wrap ((t.get? state).getD 0 + share a)) (arcs : List Arc) (tokens : Dict Int) :
    Word.wrap (((arcs.foldl f tokens).get? state).getD 0) =
      Word.wrap ((tokens.get? state).getD 0 + (arcs.map share).sum) := by
  induction arcs generalizing tokens with
  | nil => simp
  | cons a rest ih =>
      rw [List.foldl_cons, ih, Word.wrap_add_congr (hf tokens a), List.map_cons, List.sum_cons,
        Int.add_assoc]

/-- What every arc that moves tokens leaves fits. -/
theorem fits_moveTokens {tokens : Dict Int} (h : ∀ e ∈ tokens, Word.Fits e.2) (action : String) :
    ∀ e ∈ s.moveTokens action tokens, Word.Fits e.2 :=
  moveTokens_induction (P := fun t => ∀ e ∈ t, Word.Fits e.2) h
    (fun _ _ _ _ _ ht => Dict.fits_shift ht _ _) fun _ _ _ _ ht => Dict.fits_shift ht _ _

/-- A count falls by what the input arcs take and rises by what the output arcs give. -/
theorem count_moveTokens {tokens : Dict Int} (h : ∀ e ∈ tokens, Word.Fits e.2)
    (action state : String) :
    ((s.moveTokens action tokens).get? state).getD 0 =
      Word.wrap ((tokens.get? state).getD 0 - s.taken action state + s.given action state) := by
  have hneg : ((s.inputs action).map fun a => -s.takes state a).sum = -s.taken action state := by
    unfold taken
    rw [List.sum_neg, List.map_map]
    rfl
  have htaken := wrap_count_foldl (fun a => -s.takes state a)
    (fun t a => s.wrap_count_take t a state) (s.inputs action) tokens
  have hgiven := wrap_count_foldl (s.gives state) (fun t a => s.wrap_count_give t a state)
    (s.outputs action) ((s.inputs action).foldl s.take tokens)
  rw [hneg, ← Int.sub_eq_add_neg] at htaken
  calc ((s.moveTokens action tokens).get? state).getD 0
      = Word.wrap (((s.moveTokens action tokens).get? state).getD 0) :=
        (Word.wrap_of_fits (Dict.getD_of_forall (fits_moveTokens h action) Word.fits_zero state)).symm
    _ = Word.wrap ((tokens.get? state).getD 0 - s.taken action state + s.given action state) :=
        hgiven.trans (Word.wrap_add_congr htaken _)

/-- Counts in order stay so. -/
theorem sorted_moveTokens {tokens : Dict Int} (h : tokens.Sorted) (action : String) :
    (s.moveTokens action tokens).Sorted :=
  moveTokens_induction (P := Dict.Sorted) h (fun _ _ _ _ _ ht => ht.insert _ _)
    (fun _ _ _ _ ht => ht.insert _ _)

end Schema

namespace Net

variable {s : Schema} {action : String} {bindings : Option Bindings} {m after : Marking} {a : Arc}

theorem count_of_move (hm : m.CountsFit) (h : (move s action bindings).run m = (.ok (), after))
    (state : String) : after.count state =
      Word.wrap (m.count state - s.taken action state + s.given action state) := by
  unfold Marking.count
  rw [tokens_of_move h]
  exact Schema.count_moveTokens hm action state

/-- An input arc of an enabled action found what it takes, or found nothing where it demands that. -/
theorem allowed_of_enabled {net : Net} (h : net.enabled action = true) {a : Arc}
    (ha : a ∈ net.schema.inputs action) (htoken : net.schema.isTokenState a.source = true) :
    if a.inhibitor then net.marking.count a.source = 0
    else a.weight ≤ net.marking.count a.source := by
  obtain ⟨st, hst, ht⟩ := Schema.isTokenState_iff.mp htoken
  have hall := (Bool.and_eq_true _ _ ▸ h).2
  have hallows := List.all_eq_true.mp hall a ha
  unfold allows at hallows
  simp only [hst, ht, Bool.not_true, Bool.false_eq_true, if_false] at hallows
  by_cases hi : a.inhibitor = true
  · rw [if_pos hi] at hallows ⊢
    simpa using hallows
  · rw [if_neg hi] at hallows ⊢
    simpa using hallows

theorem largestTake_le_count {net : Net} (h : net.enabled action = true) {state : String}
    (hcount : 0 ≤ net.marking.count state) :
    net.schema.largestTake action state ≤ net.marking.count state := by
  refine Schema.largestTake_le hcount fun a ha => ?_
  unfold Schema.takes
  split
  · rename_i hc
    obtain ⟨hs, htoken, hi⟩ := hc
    have := allowed_of_enabled h ha (hs ▸ htoken)
    rw [hi, if_neg (by simp), hs] at this
    exact this
  · exact hcount

theorem not_enabled_of_blocked {net : Net} (h : net.schema.Blocked action) :
    net.enabled action ≠ true := by
  intro henabled
  obtain ⟨a, ha, hi, hpos⟩ := h
  obtain ⟨b, hb, hxpos⟩ := List.exists_lt_of_sum_lt (fun _ => 0) (net.schema.takes a.source)
    (by rwa [List.sum_map_zero])
  -- the state is empty for the inhibitor and holds the weight of `b`
  unfold Schema.takes at hxpos
  split at hxpos
  · rename_i hc
    obtain ⟨hs, htoken, hbi⟩ := hc
    have hempty := allowed_of_enabled henabled ha htoken
    have hholds := allowed_of_enabled henabled hb (hs ▸ htoken)
    rw [hi, if_pos rfl] at hempty
    rw [hbi, if_neg (by simp), hs] at hholds
    omega
  · omega

end Net

/-! ### Runs -/

/-- A call that fires an action, with what it is tested against. -/
structure Call where
  action : String
  /-- Without bindings guards and data are left aside. -/
  bindings : Option Bindings
  evaluator : Option GuardEvaluator
  checksConstraints : Bool

namespace Call

/-- Make a call on a marking. -/
def run (c : Call) (s : Schema) (m : Marking) : Except Fault Unit × Net :=
  let net : Net := ⟨s, m, c.evaluator, c.checksConstraints⟩
  match c.bindings with
  | none => net.execute c.action
  | some b => net.executeWith c.action b

/-- The marking after a call. -/
def after (c : Call) (s : Schema) (m : Marking) : Marking :=
  (c.run s m).2.marking

/-- A call fires its action or leaves the marking. -/
theorem cases (c : Call) (s : Schema) (m : Marking) :
    (∃ act, s.action? c.action = some act ∧ (c.run s m).1 = .ok () ∧
      Net.Fires ⟨s, m, c.evaluator, c.checksConstraints⟩ c.action c.bindings (c.after s m)) ∨
    (∃ f, (c.run s m).1 = .error f) ∧ c.after s m = m := by
  unfold after run
  cases hb : c.bindings with
  | none =>
      rcases Net.execute_cases ⟨s, m, c.evaluator, c.checksConstraints⟩ c.action with
        ⟨act, after, hact, hfires, heq⟩ | ⟨f, heq⟩
      · exact Or.inl ⟨act, hact, by simp only [heq], by simpa only [heq] using hfires⟩
      · exact Or.inr ⟨⟨f, by simp only [heq]⟩, by simp only [heq]⟩
  | some b =>
      rcases Net.executeWith_cases ⟨s, m, c.evaluator, c.checksConstraints⟩ c.action b with
        ⟨act, after, hact, -, hfires, heq⟩ | ⟨f, heq⟩
      · exact Or.inl ⟨act, hact, by simp only [heq], by simpa only [heq] using hfires⟩
      · exact Or.inr ⟨⟨f, by simp only [heq]⟩, by simp only [heq]⟩

end Call

namespace Schema

/-- The markings that calls lead to from the start. -/
inductive Reached (s : Schema) : Marking → Prop
  | start : Reached s (.initial s)
  | call {m : Marking} (c : Call) (h : Reached s m) : Reached s (c.after s m)

/-- What an action makes of every count fits 64 bits. -/
def Within (s : Schema) (m : Marking) (action : String) : Prop :=
  ∀ state, Word.Fits (m.count state - s.taken action state + s.given action state)

/-- The markings that calls lead to from the start as long as no count wraps around. -/
inductive ReachedWithin (s : Schema) : Marking → Prop
  | start : ReachedWithin s (.initial s)
  | call {m : Marking} (c : Call) (h : ReachedWithin s m)
      (hwithin : (c.run s m).1 = .ok () → s.Within m c.action) : ReachedWithin s (c.after s m)

/-- What an action takes is held or given back. -/
def Affords (s : Schema) (m : Marking) (action : String) : Prop :=
  ∀ state, s.taken action state ≤ m.count state + s.given action state

variable {s : Schema}

theorem initialTokens_nonneg {st : StateDecl} (h : st ∈ s.states) (ht : st.isToken = true) :
    0 ≤ st.initialTokens := by
  unfold StateDecl.initialTokens
  split
  · rename_i x hx
    have hcount := s.wellFormed.counts st h ht _ hx
    unfold isInitialCount at hcount
    rw [Bool.and_eq_true] at hcount
    exact Double.toInt64_nonneg (of_decide_eq_true hcount.1)
  · exact Int.le_refl 0

theorem initial_nonneg (s : Schema) :
    (Marking.initial s).tokens.Sorted ∧ (Marking.initial s).Nonneg := by
  refine Marking.initial_induction (P := fun m => m.tokens.Sorted ∧ m.Nonneg)
    ⟨Dict.sorted_nil, fun e he => absurd he List.not_mem_nil⟩
    (fun m st hst ht hm => ⟨hm.1.insert _ _, fun e he => ?_⟩) (fun m st hst _ hm => hm)
  rcases Dict.mem_insert he with rfl | he
  · exact initialTokens_nonneg hst ht
  · exact hm.2 e he

/-- Of what is not a declared state no total can wrap around. -/
theorem within_of_states {m : Marking} (hm : m.CountsFit) {action : String}
    (h : ∀ st ∈ s.states,
      Word.Fits (m.count st.id - s.taken action st.id + s.given action st.id)) :
    s.Within m action := by
  intro state
  by_cases ht : s.isTokenState state = true
  · obtain ⟨st, hst, -⟩ := isTokenState_iff.mp ht
    obtain ⟨hin, rfl⟩ := state?_some hst
    exact h st hin
  · rw [taken_eq_zero ht, given_eq_zero ht, Int.sub_zero, Int.add_zero]
    exact Dict.getD_of_forall (P := Word.Fits) hm Word.fits_zero state

theorem fits_initialTokens (st : StateDecl) : Word.Fits st.initialTokens := by
  unfold StateDecl.initialTokens
  split
  · exact Double.fits_toInt64 _
  · exact Word.fits_zero

theorem initial_fit (s : Schema) : (Marking.initial s).CountsFit :=
  Marking.initial_induction (P := Marking.CountsFit) (fun _ he => absurd he List.not_mem_nil)
    (fun _ st _ _ hm => Dict.forall_mem_insert (P := Word.Fits) hm st.id (fits_initialTokens st))
    fun _ _ _ _ hm => hm

theorem fit_after (c : Call) {m : Marking} (hm : m.CountsFit) : (c.after s m).CountsFit := by
  rcases c.cases s m with ⟨act, -, -, hfires⟩ | ⟨-, hsame⟩
  · unfold Marking.CountsFit
    rw [Net.tokens_of_move hfires.moved]
    exact fits_moveTokens hm c.action
  · rwa [hsame]

theorem sorted_after (c : Call) {m : Marking} (hm : m.tokens.Sorted) :
    (c.after s m).tokens.Sorted := by
  rcases c.cases s m with ⟨act, -, -, hfires⟩ | ⟨-, hsame⟩
  · rw [Net.tokens_of_move hfires.moved]
    exact sorted_moveTokens hm c.action
  · rwa [hsame]

theorem Reached.sorted {m : Marking} (h : s.Reached m) : m.tokens.Sorted := by
  induction h with
  | start => exact (initial_nonneg s).1
  | call c _ ih => exact sorted_after c ih

theorem Reached.fit {m : Marking} (h : s.Reached m) : m.CountsFit := by
  induction h with
  | start => exact initial_fit s
  | call c _ ih => exact fit_after c ih

theorem ReachedWithin.reached {m : Marking} (h : s.ReachedWithin m) : s.Reached m := by
  induction h with
  | start => exact .start
  | call c _ _ ih => exact .call c ih

/-- A successful call whose totals fit leaves no count below zero exactly when it could afford what it
took. -/
theorem nonneg_after_iff {m : Marking} (hsorted : m.tokens.Sorted) (hm : m.CountsFit) {c : Call}
    (hok : (c.run s m).1 = .ok ()) (hwithin : s.Within m c.action) :
    (c.after s m).Nonneg ↔ s.Affords m c.action := by
  rcases c.cases s m with ⟨act, -, -, hfires⟩ | ⟨⟨f, hf⟩, -⟩
  · rw [Marking.nonneg_iff (sorted_after c hsorted)]
    refine forall_congr' fun state => ?_
    rw [Net.count_of_move hm hfires.moved state, Word.wrap_of_fits (hwithin state)]
    show 0 ≤ m.count state - s.taken c.action state + s.given c.action state ↔
      s.taken c.action state ≤ m.count state + s.given c.action state
    omega
  · exact absurd (hf.symm.trans hok) (by simp)

/-- A covered schema affords every successful call on a marking without counts below zero. -/
theorem Covered.affords (hs : s.Covered) {m : Marking} (hsorted : m.tokens.Sorted) (hm : m.Nonneg)
    {c : Call} (hok : (c.run s m).1 = .ok ()) : s.Affords m c.action := by
  rcases c.cases s m with ⟨act, hact, -, hfires⟩ | ⟨⟨f, hf⟩, -⟩
  · obtain ⟨hmem, hid⟩ := action?_some hact
    intro state
    by_cases ht : s.isTokenState state = true
    · obtain ⟨st, hst, -⟩ := isTokenState_iff.mp ht
      obtain ⟨hin, rfl⟩ := state?_some hst
      have hcover := (hs act hmem).resolve_left
        fun hb => Net.not_enabled_of_blocked (hid ▸ hb) hfires.enabled
      have hlargest : s.largestTake c.action st.id ≤ m.count st.id :=
        Net.largestTake_le_count hfires.enabled ((Marking.nonneg_iff hsorted).mp hm st.id)
      have := hcover st hin
      rw [hid] at this
      omega
    · rw [taken_eq_zero ht, given_eq_zero ht]
      have := (Marking.nonneg_iff hsorted).mp hm state
      omega
  · exact absurd (hf.symm.trans hok) (by simp)

/-- Runs keep counts at zero or above if every successful call on the way is afforded. -/
theorem nonneg_of_affords
    (h : ∀ m, s.ReachedWithin m → m.Nonneg → ∀ c : Call, (c.run s m).1 = .ok () →
      s.Within m c.action → s.Affords m c.action) {m : Marking} (hm : s.ReachedWithin m) :
    m.Nonneg := by
  induction hm with
  | start => exact (initial_nonneg s).2
  | call c hm hwithin ih =>
      rcases c.cases s _ with ⟨act, -, hok, -⟩ | ⟨-, hsame⟩
      · have hreached := hm.reached
        exact (nonneg_after_iff hreached.sorted hreached.fit hok (hwithin hok)).mpr
          (h _ hm ih c hok (hwithin hok))
      · rwa [hsame]

theorem nonneg_of_reached_iff (s : Schema) :
    (∀ m, s.ReachedWithin m → m.Nonneg) ↔ ∀ m, s.ReachedWithin m → ∀ c : Call,
      (c.run s m).1 = .ok () → s.Within m c.action → s.Affords m c.action := by
  constructor
  · intro h m hm c hok hwithin
    exact (nonneg_after_iff hm.reached.sorted hm.reached.fit hok hwithin).mp
      (h _ (.call c hm fun _ => hwithin))
  · exact fun h m hm => nonneg_of_affords (fun m hm _ => h m hm) hm

end Schema

/-! ### A schema that is not covered -/

namespace Schema

variable {s : Schema}

/-- As few tokens as the test of an action's arcs is content with. -/
def leastMarking (s : Schema) (action : String) : Marking :=
  ⟨.ofList (s.states.map fun st => (st.id, s.largestTake action st.id)), []⟩

theorem leastMarking_sorted (s : Schema) (action : String) :
    (s.leastMarking action).tokens.Sorted :=
  Dict.sorted_ofList _

theorem leastMarking_nonneg (s : Schema) (action : String) : (s.leastMarking action).Nonneg := by
  intro e he
  obtain ⟨st, -, rfl⟩ := List.mem_map.mp (Dict.mem_ofList he)
  exact largestTake_nonneg

theorem count_leastMarking {action : String} {st : StateDecl} (h : st ∈ s.states) :
    (s.leastMarking action).count st.id = s.largestTake action st.id := by
  have hin : (st.id, s.largestTake action st.id) ∈
      s.states.map fun st => (st.id, s.largestTake action st.id) :=
    List.mem_map_of_mem h
  obtain ⟨n, hn⟩ := Dict.get?_ofList_isSome hin
  obtain ⟨t, -, heq⟩ := List.mem_map.mp (Dict.mem_ofList (Dict.mem_of_get? hn))
  obtain ⟨hid, rfl⟩ := Prod.mk.inj heq
  show ((Dict.ofList _).get? st.id).getD 0 = _
  rw [hn, hid]
  rfl

theorem leastMarking_enabled {a : Action} (ha : a ∈ s.actions) (hb : ¬ s.Blocked a.id)
    {evaluator : Option GuardEvaluator} {checks : Bool} :
    Net.enabled ⟨s, s.leastMarking a.id, evaluator, checks⟩ a.id = true := by
  unfold Net.enabled
  rw [Bool.and_eq_true]
  refine ⟨by simp [action?_of_mem ha], List.all_eq_true.mpr fun arc harc => ?_⟩
  obtain ⟨hdeclared, hinto, haction⟩ := mem_inputs harc
  obtain ⟨st, hst⟩ := state?_source hdeclared (hinto.symm ▸ haction)
  obtain ⟨hin, hid⟩ := state?_some hst
  unfold Net.allows
  simp only [hst]
  by_cases ht : st.isToken = true
  · rw [ht, if_neg (by simp), ← hid, count_leastMarking hin, hid]
    have hstate : s.isTokenState arc.source = true := isTokenState_iff.mpr ⟨st, hst, ht⟩
    by_cases hi : arc.inhibitor = true
    · rw [if_pos hi, beq_iff_eq]
      -- an inhibitor of an action that is not blocked is on a state nothing is taken from
      have hzero : s.taken a.id arc.source ≤ 0 :=
        Int.not_lt.mp fun hpos => hb ⟨arc, harc, hi, hpos⟩
      have hle : s.largestTake a.id arc.source ≤ 0 :=
        largestTake_le (Int.le_refl 0) fun b hb => Int.le_trans (takes_le_taken hb) hzero
      exact Int.le_antisymm hle largestTake_nonneg
    · rw [if_neg hi, decide_eq_true_eq]
      have htakes : s.takes arc.source arc = arc.weight :=
        if_pos ⟨rfl, hstate, by simpa using hi⟩
      exact htakes ▸ takes_le_largestTake harc
  · simp [ht]

/-- A schema that is not covered has a call that takes more from a marking than is there. -/
theorem exists_call_of_not_covered (h : ¬ s.Covered) :
    ∃ (m : Marking) (c : Call), m.tokens.Sorted ∧ m.Nonneg ∧ (c.run s m).1 = .ok () ∧
      ¬ s.Affords m c.action := by
  simp only [Covered, Classical.not_forall, not_or] at h
  obtain ⟨a, ha, hb, st, hst, hlt⟩ := h
  let c : Call := ⟨a.id, none, none, false⟩
  have hok : (c.run s (s.leastMarking a.id)).1 = .ok () := by
    have hmoved := Net.run_move_none s a.id (s.leastMarking a.id)
    have hfires : Net.Fires ⟨s, s.leastMarking a.id, none, false⟩ a.id none _ :=
      ⟨leastMarking_enabled ha hb, hmoved, by simp⟩
    show (Net.execute ⟨s, s.leastMarking a.id, none, false⟩ a.id).1 = _
    unfold Net.execute
    simp only [action?_of_mem ha, Net.fire_of_fires hfires]
  refine ⟨s.leastMarking a.id, c, leastMarking_sorted s a.id, leastMarking_nonneg s a.id, hok,
    fun haffords => ?_⟩
  have := haffords st.id
  rw [count_leastMarking hst] at this
  exact hlt this

/--
**Counts stay at zero or above exactly where calls can afford what they take.**

For the runs of a schema in which no count wraps around this is a condition on the calls that succeed.
For all calls on all markings it is one on the arcs alone, which a definition can be tested for.
-/
theorem counts_nonneg_iff (s : Schema) :
    ((∀ m, s.ReachedWithin m → m.Nonneg) ↔ ∀ m, s.ReachedWithin m → ∀ c : Call,
      (c.run s m).1 = .ok () → s.Within m c.action → s.Affords m c.action) ∧
    (s.Covered → ∀ m, s.ReachedWithin m → m.Nonneg) ∧
    (s.Covered ↔ ∀ m : Marking, m.tokens.Sorted → m.Nonneg → ∀ c : Call,
      (c.run s m).1 = .ok () → s.Affords m c.action) ∧
    ∀ m : Marking, m.tokens.Sorted → m.CountsFit → ∀ c : Call, (c.run s m).1 = .ok () →
      s.Within m c.action → ((c.after s m).Nonneg ↔ s.Affords m c.action) := by
  refine ⟨nonneg_of_reached_iff s, fun hs m hm => ?_,
    ⟨fun hs m hsorted hm c hok => hs.affords hsorted hm hok, fun h => ?_⟩,
    fun m hsorted hm c hok hwithin => nonneg_after_iff hsorted hm hok hwithin⟩
  · exact nonneg_of_affords (fun m hm hnonneg c hok _ => hs.affords hm.reached.sorted hnonneg hok) hm
  · refine Decidable.byContradiction fun hs => ?_
    obtain ⟨m, c, hsorted, hm, hok, hlack⟩ := exists_call_of_not_covered hs
    exact hlack (h m hsorted hm c hok)

/-- One token and an action that takes one from it by each of two arcs. -/
def overdrawn : Definition :=
  ⟨"overdrawn", none, [.token "purse" 1], [.plain "pay"],
    [.flow "purse" "pay", .flow "purse" "pay"], []⟩

example : ∀ s, ofDefinition overdrawn = .ok s → ¬ s.Covered := by
  intro s h
  cases h
  decide

theorem overdrawn_below_zero : ¬ ∀ (s : Schema) (m : Marking), s.ReachedWithin m → m.Nonneg := by
  intro h
  let s : Schema := ⟨overdrawn, .ofDefinition overdrawn, rfl, rfl⟩
  let pay : Call := ⟨"pay", none, none, true⟩
  have hm : (pay.after s (.initial s)).tokens = [("purse", -1)] := rfl
  have hwithin : s.Within (.initial s) "pay" := within_of_states (initial_fit s) (by decide)
  have hpaid := h s _ (.call pay .start fun _ => hwithin) ("purse", -1) (by simp [hm])
  exact absurd hpaid (by decide)

end Schema

end EventNet
