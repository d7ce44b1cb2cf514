import EventNet.Proofs.Net.Padding

/-!
Calls on markings that lack counts.

A call on a marking that lacks counts is compared with the same call where these counts are zero.  Both
go through the same exits, so all that can tell them apart is what the evaluator answers: first about
the guard, and, if the action fires, about the constraints.  The codes of the faults of a guard are of
no other kind of fault, so outcomes that are the same come from answers that are the same, and the
comparison is exact (`Call.outcome_eq_iff`).

Then expressions.  A guard that mentions a state which is lacking, and which no binding stands for, fails
on the one marking and reads zero on the other; so does a constraint, and the least count of some states
is another one if a state is left out.  What looks at nothing of this kind gives the same answers.
-/

namespace EventNet

open Marking (Padded)

/-! ### How calls end -/

/-- How a call ends: well, or with the code of its fault. -/
def Call.outcome (c : Call) (s : Schema) (m : Marking) : Except Code Unit :=
  (c.run s m).1.mapError Fault.code

namespace Net

/-- The code of what the constraints have against the marking of a net, if they are checked. -/
def objection? (net : Net) : Option Code :=
  (if net.checksConstraints then net.violations.head? else none).map (·.fault.code)

variable {s : Schema} {m n : Marking} {action : String} {bindings : Option Bindings}
  {evaluator : Option GuardEvaluator} {checks : Bool} {act : Action} {f : Fault}

/-- Arcs fail at bindings only. -/
theorem transform_error {st : StateDecl} {a : Arc} {b : Bindings} {add : Bool} {after : Marking}
    (h : (transform action st a b add).run m = (.error f, after)) :
    f.code = .invalidBinding := by
  rw [run_transform] at h
  split at h
  · obtain rfl := Except.error.inj (congrArg Prod.fst h)
    rfl
  · cases congrArg Prod.fst h
  · cases congrArg Prod.fst h

theorem takeInput_error {a : Arc} {after : Marking}
    (h : (takeInput s action bindings a).run m = (.error f, after)) : f.code = .invalidBinding := by
  rw [run_takeInput] at h
  split at h
  · cases congrArg Prod.fst h
  split at h
  · cases congrArg Prod.fst h
  split at h
  · cases congrArg Prod.fst h
  · exact transform_error h

theorem giveOutput_error {a : Arc} {after : Marking}
    (h : (giveOutput s action bindings a).run m = (.error f, after)) : f.code = .invalidBinding := by
  rw [run_giveOutput] at h
  split at h
  · cases congrArg Prod.fst h
  split at h
  · cases congrArg Prod.fst h
  split at h
  · cases congrArg Prod.fst h
  · exact transform_error h

/-- Arcs in a row fail as one of them does. -/
theorem eachArc_error {act : Arc → Update Unit} {code : Code}
    (hact : ∀ a m f after, (act a).run m = (.error f, after) → f.code = code) (arcs : List Arc)
    {after : Marking} (h : (eachArc act arcs).run m = (.error f, after)) : f.code = code := by
  induction arcs generalizing m with
  | nil => cases congrArg Prod.fst h
  | cons a rest ih =>
      rw [run_eachArc_cons] at h
      split at h
      · exact ih h
      · rename_i f' after' hfirst
        obtain rfl : f' = f := Except.error.inj (congrArg Prod.fst h)
        exact hact a m f' after' hfirst

theorem move_error {after : Marking} (h : (move s action bindings).run m = (.error f, after)) :
    f.code = .invalidBinding := by
  rw [run_move] at h
  split at h
  · exact eachArc_error (fun a m f after => giveOutput_error) _ h
  · rename_i f' after' hin
    obtain rfl : f' = f := Except.error.inj (congrArg Prod.fst h)
    exact eachArc_error (fun a m f after => takeInput_error) _ hin

/-- A fault that a guard has no part in. -/
def Unguarded (code : Code) : Prop :=
  code ≠ .guardNotSatisfied ∧ code ≠ .guardEvaluation

theorem unguarded_of_stops {net : Net} (h : net.Stops action bindings f) : Unguarded f.code := by
  cases h with
  | disabled => exact ⟨nofun, nofun⟩
  | broken f mid henabled hmoved =>
      rw [move_error hmoved]
      exact ⟨nofun, nofun⟩
  | violated v mid =>
      unfold Violation.fault
      split
      · exact ⟨nofun, nofun⟩
      · exact ⟨nofun, nofun⟩

theorem guarded_of_guardFault? {net : Net} {b : Bindings} (h : net.guardFault? act b = some f) :
    ¬ Unguarded f.code := by
  rintro ⟨hsatisfied, hevaluated⟩
  unfold guardFault? at h
  split at h
  · split at h
    · cases h
    · obtain rfl := Option.some.inj h
      exact hsatisfied rfl
    · obtain rfl := Option.some.inj h
      exact hevaluated rfl
  · cases h

/-! ### Firing -/

/-- What firing comes to once all arcs were gone through. -/
def settled (net : Net) (after : Marking) : Except Fault Unit × Net :=
  let moved := { net with marking := after }
  match if net.checksConstraints then moved.violations.head? else none with
  | some v => (.error v.fault, net)
  | none => (.ok (), moved)

theorem fire_of_moved {net : Net} {after : Marking} (henabled : net.enabled act.id = true)
    (hmoved : (move net.schema act.id bindings).run net.marking = (.ok (), after)) :
    net.fire act bindings = net.settled after := by
  unfold fire
  rw [henabled, hmoved]
  rfl

theorem settled_cases (net : Net) (after : Marking) :
    (∃ v : Violation, objection? { net with marking := after } = some v.fault.code ∧
      net.settled after = (.error v.fault, net)) ∨
    objection? { net with marking := after } = none ∧
      net.settled after = (.ok (), { net with marking := after }) := by
  unfold settled objection?
  dsimp only
  cases (if net.checksConstraints then (violations { net with marking := after }).head? else none) with
  | some v => exact Or.inl ⟨v, rfl, rfl⟩
  | none => exact Or.inr ⟨rfl, rfl⟩

/-- Two nets that go through the same exits when they fire an action: they fail alike before anything is
known of constraints, or they are led to padded markings. -/
inductive Beside (s : Schema) (net other : Net) (act : Action) (bindings : Option Bindings) : Prop
  | stopped (f : Fault) (hno : ∀ after, net.enabled act.id = true →
        (move net.schema act.id bindings).run net.marking ≠ (.ok (), after))
      (hnet : net.fire act bindings = (.error f, net))
      (hother : other.fire act bindings = (.error f, other)) : Beside s net other act bindings
  | moved (after after' : Marking) (henabled : net.enabled act.id = true)
      (henabled' : other.enabled act.id = true)
      (hmoved : (move net.schema act.id bindings).run net.marking = (.ok (), after))
      (hmoved' : (move other.schema act.id bindings).run other.marking = (.ok (), after'))
      (hafter : Padded s after after') : Beside s net other act bindings

theorem fire_beside (h : Padded s m n) (act : Action) (bindings : Option Bindings) :
    Beside s ⟨s, m, evaluator, checks⟩ ⟨s, n, evaluator, checks⟩ act bindings := by
  have henabled : enabled ⟨s, m, evaluator, checks⟩ act.id =
      enabled ⟨s, n, evaluator, checks⟩ act.id := enabled_padded h act.id
  by_cases he : enabled ⟨s, m, evaluator, checks⟩ act.id = true
  swap
  · have hdisabled : enabled ⟨s, m, evaluator, checks⟩ act.id = false := by simpa using he
    refine .stopped (.actionNotEnabled act.id) (fun _ htrue => absurd htrue he) ?_ ?_
    · exact fire_of_stops (.disabled hdisabled)
    · exact fire_of_stops (.disabled (henabled ▸ hdisabled))
  have he' : enabled ⟨s, n, evaluator, checks⟩ act.id = true := henabled ▸ he
  obtain ⟨houtcome, hafter⟩ := move_padded h act.id bindings
  cases hm : (move s act.id bindings).run m with
  | mk r after =>
    cases hn : (move s act.id bindings).run n with
    | mk r' after' =>
      rw [hm, hn] at houtcome hafter
      obtain rfl : r = r' := houtcome
      cases r with
      | ok u => exact .moved after after' he he' hm hn hafter
      | error f =>
          refine .stopped f (fun mid _ hmid => nomatch congrArg Prod.fst (hm.symm.trans hmid)) ?_ ?_
          · exact fire_of_stops (.broken f after he hm)
          · exact fire_of_stops (.broken f after' he' hn)

/-- If an action fires in a net and in another, the constraints have the same against what it leads
to. -/
def FiresAlike (net other : Net) (action : String) (bindings : Option Bindings) : Prop :=
  ∀ after after', net.enabled action = true →
    (move net.schema action bindings).run net.marking = (.ok (), after) →
    (move other.schema action bindings).run other.marking = (.ok (), after') →
    objection? { net with marking := after } = objection? { other with marking := after' }

variable {net other : Net}

theorem Beside.outcome_iff (h : Beside s net other act bindings) :
    (net.fire act bindings).1.mapError Fault.code = (other.fire act bindings).1.mapError Fault.code ↔
      net.FiresAlike other act.id bindings := by
  cases h with
  | stopped f hno hnet hother =>
      rw [hnet, hother]
      exact iff_of_true rfl fun after _ henabled hmoved => absurd hmoved (hno after henabled)
  | moved after after' henabled henabled' hmoved hmoved' hafter =>
      have halike : net.FiresAlike other act.id bindings ↔
          objection? { net with marking := after } = objection? { other with marking := after' } := by
        constructor
        · intro hall
          exact hall after after' henabled hmoved hmoved'
        · intro hone mid mid' _ hmid hmid'
          obtain rfl := congrArg Prod.snd (hmoved.symm.trans hmid)
          obtain rfl := congrArg Prod.snd (hmoved'.symm.trans hmid')
          exact hone
      rw [halike, fire_of_moved henabled hmoved, fire_of_moved henabled' hmoved']
      rcases net.settled_cases after with ⟨v, hobjection, heq⟩ | ⟨hobjection, heq⟩ <;>
        rcases other.settled_cases after' with ⟨w, hobjection', heq'⟩ | ⟨hobjection', heq'⟩ <;>
        simp [hobjection, heq, hobjection', heq', Except.mapError]

theorem Beside.padded (h : Beside s net other act bindings)
    (hmarking : Padded s net.marking other.marking)
    (houtcome : (net.fire act bindings).1.mapError Fault.code =
      (other.fire act bindings).1.mapError Fault.code) :
    Padded s (net.fire act bindings).2.marking (other.fire act bindings).2.marking := by
  cases h with
  | stopped f hno hnet hother =>
      rw [hnet, hother]
      exact hmarking
  | moved after after' henabled henabled' hmoved hmoved' hafter =>
      rw [fire_of_moved henabled hmoved, fire_of_moved henabled' hmoved'] at houtcome ⊢
      rcases net.settled_cases after with ⟨v, -, heq⟩ | ⟨-, heq⟩ <;>
        rcases other.settled_cases after' with ⟨w, -, heq'⟩ | ⟨-, heq'⟩ <;>
        rw [heq, heq'] at houtcome ⊢
      · exact hmarking
      · cases houtcome
      · cases houtcome
      · exact hafter

/-- Firing has no fault of a guard. -/
theorem fire_ne_guarded (hf : ¬ Unguarded f.code) :
    (net.fire act bindings).1.mapError Fault.code ≠ .error f.code := by
  intro h
  rcases hfire : net.fire act bindings with ⟨r, after⟩
  rw [hfire] at h
  cases r with
  | ok u => cases h
  | error f' =>
      have hcode : f'.code = f.code := Except.error.inj h
      exact hf (hcode ▸ unguarded_of_stops (fire_eq_error hfire))

/-! ### Constraints -/

theorem constraint_of_violation? {e : GuardEvaluator} {tokens : Dict Int} {k : Constraint}
    {v : Violation} (h : violation? e tokens k = some v) : v.constraint = k := by
  unfold violation? at h
  split at h
  · cases h
  · obtain rfl := Option.some.inj h
    rfl
  · obtain rfl := Option.some.inj h
    rfl

/-- Of the violations of a net those of one constraint are what is wrong with it. -/
theorem mem_violations {e : GuardEvaluator} {k : Constraint} (hk : k ∈ s.constraints)
    {v : Violation} (hv : v.constraint = k) :
    v ∈ violations ⟨s, m, some e, checks⟩ ↔ violation? e m.tokens k = some v := by
  unfold violations
  rw [List.mem_filterMap]
  constructor
  · rintro ⟨k', -, hviolation⟩
    rwa [← hv, constraint_of_violation? hviolation]
  · intro hviolation
    exact ⟨k, hk, hviolation⟩

/-- Violations are the same exactly if the same is wrong with each constraint. -/
theorem violations_eq_iff (e : GuardEvaluator) :
    violations ⟨s, m, some e, checks⟩ = violations ⟨s, n, some e, checks⟩ ↔
      ∀ k ∈ s.constraints, violation? e m.tokens k = violation? e n.tokens k := by
  constructor
  · intro heq k hk
    refine Option.ext fun v => ?_
    by_cases hv : v.constraint = k
    · have hleft : v ∈ violations ⟨s, m, some e, checks⟩ ↔ _ := mem_violations hk hv
      have hright : v ∈ violations ⟨s, n, some e, checks⟩ ↔ _ := mem_violations hk hv
      rw [← hleft, heq, hright]
    · refine iff_of_false ?_ ?_ <;> exact fun h => hv (constraint_of_violation? h)
  · intro h
    exact List.filterMap_congr h

end Net

/-! ### Calls -/

namespace Call

variable {c : Call} {s : Schema} {m n : Marking} {act : Action}

/-- What a call asks the evaluator about an action is answered alike on two markings: whether the guard
passes and, if the action fires, what the constraints have against it. -/
structure AnsweredAlike (c : Call) (s : Schema) (m n : Marking) (act : Action) : Prop where
  guard : (c.guardFault? (c.on s m) act).map Fault.code = (c.guardFault? (c.on s n) act).map Fault.code
  constraints : c.guardFault? (c.on s m) act = none →
    (c.on s m).FiresAlike (c.on s n) act.id c.bindings

theorem guarded_of_guardFault? {net : Net} {f : Fault} (h : c.guardFault? net act = some f) :
    ¬ Net.Unguarded f.code := by
  obtain ⟨b, -, hguard⟩ := Option.bind_eq_some_iff.mp h
  exact Net.guarded_of_guardFault? hguard

theorem beside (h : Padded s m n) (c : Call) (act : Action) :
    Net.Beside s (c.on s m) (c.on s n) act c.bindings :=
  Net.fire_beside h act c.bindings

/-- **Where counts of zero are added, a call ends as before exactly if what it asks the evaluator is
answered alike.** -/
theorem outcome_eq_iff (h : Padded s m n) (c : Call) :
    c.outcome s m = c.outcome s n ↔
      ∀ act, s.action? c.action = some act → c.AnsweredAlike s m n act := by
  unfold outcome
  rw [run_eq, run_eq]
  cases haction : s.action? c.action with
  | none => exact iff_of_true rfl nofun
  | some act =>
      have hone : (∀ act', some act = some act' → c.AnsweredAlike s m n act') ↔
          c.AnsweredAlike s m n act := by
        constructor
        · intro hall
          exact hall act rfl
        · rintro hact act' heq
          exact Option.some.inj heq ▸ hact
      rw [hone]
      dsimp only
      cases hguard : c.guardFault? (c.on s m) act with
      | none =>
          cases hguard' : c.guardFault? (c.on s n) act with
          | none =>
              dsimp only
              rw [(c.beside h act).outcome_iff]
              constructor
              · intro hfires
                exact ⟨by rw [hguard, hguard'], fun _ => hfires⟩
              · intro halike
                exact halike.constraints hguard
          | some f' =>
              refine iff_of_false (Net.fire_ne_guarded (guarded_of_guardFault? hguard')) fun halike => ?_
              have hcodes := halike.guard
              rw [hguard, hguard'] at hcodes
              cases hcodes
      | some f =>
          cases hguard' : c.guardFault? (c.on s n) act with
          | none =>
              refine iff_of_false (fun heq => ?_) fun halike => ?_
              · exact Net.fire_ne_guarded (guarded_of_guardFault? hguard) heq.symm
              · have hcodes := halike.guard
                rw [hguard, hguard'] at hcodes
                cases hcodes
          | some f' =>
              constructor
              · intro heq
                refine ⟨?_, fun hnone => nomatch hguard.symm.trans hnone⟩
                rw [hguard, hguard']
                exact congrArg some (Except.error.inj heq)
              · intro halike
                have hcodes := halike.guard
                rw [hguard, hguard'] at hcodes
                exact congrArg Except.error (Option.some.inj hcodes)

/-- Calls that end alike leave markings that differ by zeros, as before. -/
theorem padded_of_outcome (h : Padded s m n) (heq : c.outcome s m = c.outcome s n) :
    Padded s (c.run s m).2.marking (c.run s n).2.marking := by
  unfold outcome at heq
  rw [run_eq, run_eq] at heq ⊢
  cases haction : s.action? c.action with
  | none => exact h
  | some act =>
      rw [haction] at heq
      dsimp only at heq ⊢
      cases hguard : c.guardFault? (c.on s m) act with
      | none =>
          rw [hguard] at heq
          cases hguard' : c.guardFault? (c.on s n) act with
          | none =>
              rw [hguard'] at heq
              exact (c.beside h act).padded h heq
          | some f' =>
              rw [hguard'] at heq
              exact absurd heq (Net.fire_ne_guarded (guarded_of_guardFault? hguard'))
      | some f =>
          rw [hguard] at heq
          cases hguard' : c.guardFault? (c.on s n) act with
          | none =>
              rw [hguard'] at heq
              exact absurd heq.symm (Net.fire_ne_guarded (guarded_of_guardFault? hguard))
          | some f' => exact h

/-- Without an evaluator nothing is asked. -/
theorem answeredAlike_of_none (h : c.evaluator = none) (act : Action) : c.AnsweredAlike s m n act := by
  have hguard : ∀ m, c.guardFault? (c.on s m) act = none := by
    intro m
    unfold guardFault? Net.guardFault? on
    cases c.bindings with
    | none => rfl
    | some b => cases act.guard <;> simp [h]
  have hobjection : ∀ m, (c.on s m).objection? = none := by
    intro m
    unfold Net.objection? Net.violations on
    simp [h]
  refine ⟨by rw [hguard, hguard], fun _ after after' _ _ _ => ?_⟩
  exact (hobjection after).trans (hobjection after').symm

end Call

/-! ### Expressions -/

/-- A constraint that does not ask for a count that a marking lacks: it mentions no such state, and asks
neither for a least count nor, where a count is below zero, for a greatest one. -/
structure Constraint.Overlooks (k : Constraint) (s : Schema) (m : Marking) : Prop where
  named : ∀ e, Expr.parse k.expr = .ok e → ∀ x ∈ e.identifiers, ¬ m.Lacks s x
  least : ∀ e, Expr.parse k.expr = .ok e → "minOf" ∉ e.called
  greatest : ∀ e, Expr.parse k.expr = .ok e → "maxOf" ∈ e.called → ∀ state, 0 ≤ m.count state

/-- A call that does not ask for counts that a marking lacks: its guard mentions no such state, unless a
binding stands for it, and its constraints do not ask for what is lacking when they are looked at. -/
structure Call.Overlooks (c : Call) (s : Schema) (m : Marking) : Prop where
  guard : ∀ act g b, s.action? c.action = some act → act.guard = some g → c.bindings = some b →
    ∀ e, Expr.parse g = .ok e → ∀ x ∈ e.identifiers, m.Lacks s x → ∃ v, Dict.get? b x = some v
  constraints : c.checksConstraints = true → ∀ k ∈ s.constraints,
    k.Overlooks s { m with tokens := s.moveTokens c.action m.tokens }

section

variable {s : Schema} {m n : Marking} {checks : Bool} (functions : Registry)

theorem Constraint.Overlooks.violation?_eq {k : Constraint} (ho : k.Overlooks s m)
    (h : Padded s m n) :
    Net.violation? (.standard functions) m.tokens k =
      Net.violation? (.standard functions) n.tokens k := by
  unfold Net.violation?
  rw [GuardEvaluator.standard_constraint_congr h.counts functions fun e he => ?_]
  exact ⟨fun x hx => h.get?_of_not_lacks (ho.named e he x hx), ho.least e he, ho.greatest e he⟩

theorem Net.violations_eq_of_overlooks (h : Padded s m n)
    (ho : ∀ k ∈ s.constraints, k.Overlooks s m) :
    violations ⟨s, m, some (.standard functions), checks⟩ =
      violations ⟨s, n, some (.standard functions), checks⟩ :=
  (violations_eq_iff _).mpr fun k hk => (ho k hk).violation?_eq functions h

/-- A guard finds the same on padded markings, but for the states that are lacking. -/
theorem Net.get?_guardContext_padded {evaluator : Option GuardEvaluator} (h : Padded s m n)
    (b : Bindings) {x : String} (hx : m.Lacks s x → ∃ v, Dict.get? b x = some v) :
    Dict.get? (guardContext ⟨s, m, evaluator, checks⟩ b) x =
      Dict.get? (guardContext ⟨s, n, evaluator, checks⟩ b) x := by
  unfold guardContext
  refine Dict.get?_insertAll_congr b ?_
  by_cases hlacks : m.Lacks s x
  · obtain ⟨v, hv⟩ := hx hlacks
    exact Or.inr ⟨v, Dict.mem_of_get? hv⟩
  · refine Or.inl ?_
    dsimp only
    rw [Dict.get?_insertAll (h.counts.sorted.mapValues _),
      Dict.get?_insertAll (h.counts.sortedToo.mapValues _), Dict.get?_mapValues, Dict.get?_mapValues,
      h.get?_of_not_lacks hlacks, h.data]

theorem Net.guardFault?_padded (h : Padded s m n) {act : Action} {b : Bindings}
    (ho : ∀ g, act.guard = some g → ∀ e, Expr.parse g = .ok e → ∀ x ∈ e.identifiers, m.Lacks s x →
      ∃ v, Dict.get? b x = some v) :
    guardFault? ⟨s, m, some (.standard functions), checks⟩ act b =
      guardFault? ⟨s, n, some (.standard functions), checks⟩ act b := by
  unfold guardFault?
  cases hg : act.guard with
  | none => rfl
  | some g =>
      have hsame : ∀ e, Expr.parse g = .ok e → (guardScope functions (guardContext
          ⟨s, m, some (.standard functions), checks⟩ b)).Alike e.identifiers e.called
          (guardScope functions (guardContext ⟨s, n, some (.standard functions), checks⟩ b)) :=
        fun e he => ⟨fun x hx => get?_guardContext_padded h b (ho g hg e he x hx), fun _ _ => rfl⟩
      dsimp only
      rw [GuardEvaluator.standard_guard_congr hsame]

theorem Call.Overlooks.answeredAlike {c : Call} {act : Action} (ho : c.Overlooks s m)
    (h : Padded s m n) (hstandard : c.evaluator = some (.standard functions))
    (haction : s.action? c.action = some act) : c.AnsweredAlike s m n act := by
  obtain ⟨action, bindings, evaluator, checks⟩ := c
  obtain rfl : evaluator = some (.standard functions) := hstandard
  have hid : act.id = action := (Schema.action?_some haction).2
  refine ⟨congrArg (Option.map Fault.code) ?_, fun _ after after' _ hmoved hmoved' => ?_⟩
  · cases bindings with
    | none => rfl
    | some b =>
        exact Net.guardFault?_padded functions h fun g hg => ho.guard act g b haction hg rfl
  · have hafter : Padded s after after' := by
      have hmarking := (Net.move_padded h act.id bindings).marking
      rwa [show (Net.move s act.id bindings).run m = _ from hmoved,
        show (Net.move s act.id bindings).run n = _ from hmoved'] at hmarking
    have htokens : after.tokens = s.moveTokens action m.tokens := hid ▸ Net.tokens_of_move hmoved
    have hoverlooks : checks = true → ∀ k ∈ s.constraints, k.Overlooks s after := by
      intro hchecks k hk
      obtain ⟨hnamed, hleast, hgreatest⟩ := ho.constraints hchecks k hk
      unfold Marking.Lacks at hnamed
      unfold Marking.count at hgreatest
      dsimp only at hnamed hgreatest
      rw [← htokens] at hnamed hgreatest
      exact ⟨hnamed, hleast, hgreatest⟩
    show Net.objection? ⟨s, after, some (.standard functions), checks⟩ =
      Net.objection? ⟨s, after', some (.standard functions), checks⟩
    unfold Net.objection?
    cases checks with
    | false => rfl
    | true => rw [Net.violations_eq_of_overlooks functions hafter (hoverlooks rfl)]

end

/-! ### The comparison -/

/-- A marking that lacks counts, beside the one where they are zero. -/
structure Schema.AbsentAsZero (s : Schema) (m : Marking) : Prop where
  padded : Padded s m (m.filled s)
  whole : ∀ state, ¬ (m.filled s).Lacks s state
  enabled : ∀ evaluator checks action, Net.enabled ⟨s, m, evaluator, checks⟩ action =
    Net.enabled ⟨s, m.filled s, evaluator, checks⟩ action
  enabledActions : ∀ evaluator checks, Net.enabledActions ⟨s, m, evaluator, checks⟩ =
    Net.enabledActions ⟨s, m.filled s, evaluator, checks⟩
  targets : ∀ target, m.matchesTokens target = (m.filled s).matchesTokens target
  /-- A call ends alike exactly if what it asks the evaluator is answered alike. -/
  outcome : ∀ c : Call, c.outcome s m = c.outcome s (m.filled s) ↔
    ∀ act, s.action? c.action = some act → c.AnsweredAlike s m (m.filled s) act
  /-- Calls that end alike leave markings that again differ by zeros. -/
  leaves : ∀ c : Call, c.outcome s m = c.outcome s (m.filled s) →
    Padded s (c.run s m).2.marking (c.run s (m.filled s)).2.marking
  unjudged : ∀ c : Call, c.evaluator = none → c.outcome s m = c.outcome s (m.filled s)
  /-- So are calls whose expressions do not ask for what is lacking. -/
  overlooked : ∀ (c : Call) functions, c.evaluator = some (.standard functions) → c.Overlooks s m →
    c.outcome s m = c.outcome s (m.filled s)
  /-- The same constraints are violated exactly if the same is wrong with each of them. -/
  violations : ∀ evaluator checks, Net.violations ⟨s, m, some evaluator, checks⟩ =
      Net.violations ⟨s, m.filled s, some evaluator, checks⟩ ↔
    ∀ k ∈ s.constraints, Net.violation? evaluator m.tokens k =
      Net.violation? evaluator (m.filled s).tokens k
  constraints : ∀ functions checks, (∀ k ∈ s.constraints, k.Overlooks s m) →
    Net.violations ⟨s, m, some (.standard functions), checks⟩ =
      Net.violations ⟨s, m.filled s, some (.standard functions), checks⟩

/-- **An absent count is zero, except to the evaluator.** -/
theorem Schema.absent_as_zero (s : Schema) {m : Marking} (h : m.tokens.Sorted) :
    s.AbsentAsZero m := by
  have hpadded := Marking.padded_filled s h
  exact {
    padded := hpadded
    whole := Marking.not_lacks_filled h
    enabled := fun _ _ action => Net.enabled_padded hpadded action
    enabledActions := fun _ _ => Net.enabledActions_padded hpadded
    targets := hpadded.matchesTokens
    outcome := Call.outcome_eq_iff hpadded
    leaves := fun c heq => Call.padded_of_outcome hpadded heq
    unjudged := fun c hnone => (c.outcome_eq_iff hpadded).mpr fun act _ =>
      Call.answeredAlike_of_none hnone act
    overlooked := fun c functions hstandard ho => (c.outcome_eq_iff hpadded).mpr fun act haction =>
      ho.answeredAlike functions hpadded hstandard haction
    violations := fun evaluator _ => Net.violations_eq_iff evaluator
    constraints := fun functions _ ho => Net.violations_eq_of_overlooks functions hpadded ho }

/-- Guests are seated at tables; how many wait is counted by a state that was declared later. -/
def parlour : Definition :=
  ⟨"parlour", none, [.token "tables" 2, .token "waiting" 0],
    [⟨"seat", some "party <= 4", [], none⟩], [.flow "tables" "seat"],
    [⟨"room", "sum(\"wait\") <= 10 && tables >= 0"⟩]⟩

/-- The schema of the parlour. -/
def seatings : Schema :=
  ⟨parlour, .ofDefinition parlour, Definition.check_of_isOk (by decide +kernel), rfl⟩

/-- What an expression mentions and calls can be computed. -/
theorem asks_of_parse (text : String) (names calls : List String)
    (h : (Expr.parse text).toOption.map (fun e => (e.identifiers, e.called)) = some (names, calls)) :
    ∀ e, Expr.parse text = .ok e → e.identifiers = names ∧ e.called = calls := by
  intro e he
  rw [he] at h
  exact Prod.mk.inj (Option.some.inj h)

theorem absent_as_zero_parlour :
    let m : Marking := ⟨[("tables", 2)], []⟩
    let c : Call := ⟨"seat", some [("party", .zero)], some (.standard []), true⟩
    m.tokens.Sorted ∧ seatings.AbsentAsZero m ∧ m.Lacks seatings "waiting" ∧
      (m.filled seatings).tokens = [("tables", 2), ("waiting", 0)] ∧ c.Overlooks seatings m ∧
      c.outcome seatings m = .ok () ∧ c.outcome seatings (m.filled seatings) = .ok () := by
  intro m c
  have hsorted : m.tokens.Sorted := List.pairwise_singleton _ _
  have hzero := Schema.absent_as_zero seatings hsorted
  have hguard := asks_of_parse "party <= 4" ["party"] [] (by decide +kernel)
  have hroom := asks_of_parse "sum(\"wait\") <= 10 && tables >= 0" ["tables"] ["sum"]
    (by decide +kernel)
  have hoverlooks : c.Overlooks seatings m := by
    refine ⟨fun act g b haction hg hb e he x hx _ => ?_, fun _ k hk => ⟨?_, ?_, ?_⟩⟩
    · have hact : act ∈ parlour.actions := (Schema.action?_some haction).1
      obtain rfl := List.mem_singleton.mp hact
      obtain rfl := Option.some.inj hg
      obtain rfl := Option.some.inj hb
      rw [(hguard e he).1] at hx
      obtain rfl := List.mem_singleton.mp hx
      exact ⟨.zero, rfl⟩
    all_goals
      obtain rfl := List.mem_singleton.mp hk
      intro e he
    · intro x hx hlacks
      rw [(hroom e he).1] at hx
      obtain rfl := List.mem_singleton.mp hx
      have hcount : (seatings.moveTokens "seat" m.tokens).get? "tables" = some 1 := by decide +kernel
      cases hcount.symm.trans hlacks.2
    · rw [(hroom e he).2]
      decide
    · rw [(hroom e he).2]
      intro hmax
      exact absurd hmax (by decide)
  have hok : c.outcome seatings m = .ok () := by decide +kernel
  refine ⟨hsorted, hzero, ⟨by decide +kernel, rfl⟩, by decide +kernel, hoverlooks, hok, ?_⟩
  rw [← hzero.overlooked c [] rfl hoverlooks, hok]

/-- Guests are seated if nobody waits, and not more may wait than there are tables. -/
def queue : Definition :=
  ⟨"queue", none, [.token "tables" 2, .token "waiting" 0],
    [⟨"seat", some "waiting == 0", [], none⟩], [.flow "tables" "seat"],
    [⟨"order", "waiting <= tables"⟩]⟩

/-- The schema of the queue. -/
def queues : Schema :=
  ⟨queue, .ofDefinition queue, Definition.check_of_isOk (by decide +kernel), rfl⟩

/-- Where the count of those who wait is lacking no guest can be seated. -/
theorem absent_unlike_zero :
    let m : Marking := ⟨[("tables", 2)], []⟩
    let blind : Call := ⟨"seat", none, some (.standard []), true⟩
    let guarded : Call := ⟨"seat", some [], some (.standard []), true⟩
    (m.filled queues).tokens = [("tables", 2), ("waiting", 0)] ∧
      blind.outcome queues m = .error .constraintEvaluation ∧
      blind.outcome queues (m.filled queues) = .ok () ∧
      guarded.outcome queues m = .error .guardEvaluation ∧
      guarded.outcome queues (m.filled queues) = .ok () ∧
      (Net.violations ⟨queues, m, some (.standard []), true⟩).map
        (fun v => (v.constraint.id, v.error)) = [("order", some (.unknownIdentifier "waiting"))] ∧
      Net.violations ⟨queues, m.filled queues, some (.standard []), true⟩ = [] := by
  intro m blind guarded
  refine ⟨?_, ?_, ?_, ?_, ?_, ?_, ?_⟩ <;> decide +kernel

end EventNet
