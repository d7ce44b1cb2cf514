import EventNet.Proofs.Net.Rollback

/-!
Constraints along the runs of a net.

A net that checks its constraints tests them on the counts that all arcs of an action have led to, and
goes back to the counts from before where one does not hold.  So a call that succeeds leaves none
violated, and since calls that fail leave the net alone, this lasts.  Which fault is told is read off the
same call made without the check: if that succeeds, the constraints are all that can be in the way, and
the fault is about the first of them, in the order of their declaration, that does not hold.
-/

namespace EventNet

/-- What a net is asked for: an action, with bindings or without. -/
structure Request where
  action : String
  bindings : Option Bindings

/-- A fault is about the first constraint that does not hold in some counts, and tells whether it is
false there or has no truth value. -/
def Fault.Blames (f : Fault) (constraints : List Constraint) (evaluator : GuardEvaluator)
    (tokens : Dict Int) : Prop :=
  ∃ before c rest, constraints = before ++ c :: rest ∧
    (∀ b ∈ before, evaluator.constraint b.expr tokens = .ok true) ∧
    f.report.details.entityId = some c.id ∧
    ((evaluator.constraint c.expr tokens = .ok false ∧ f.code = .constraintViolated) ∨
      ∃ e, evaluator.constraint c.expr tokens = .error e ∧ f.code = .constraintEvaluation)

/-- A call that does not fail has found its action and passed its guard. -/
theorem Call.passed_of_ok {c : Call} {s : Schema} {m : Marking} (h : (c.run s m).1 = .ok ()) :
    ∃ act, s.action? c.action = some act ∧ c.guardFault? (c.on s m) act = none := by
  rcases c.cases s m with ⟨act, haction, -, -⟩ | ⟨⟨f, hf⟩, -⟩
  · exact ⟨act, haction, guardFault?_of_ok haction h⟩
  · cases hf.symm.trans h

namespace Net

/-- Do what is asked for. -/
def serve (net : Net) (r : Request) : Except Fault Unit × Net :=
  match r.bindings with
  | none => net.execute r.action
  | some b => net.executeWith r.action b

/-- The net after it was asked for one thing after the other. -/
def serveAll (net : Net) (requests : List Request) : Net :=
  requests.foldl (fun net r => (net.serve r).2) net

/-- The net with its constraints left unchecked. -/
def unchecked (net : Net) : Net :=
  { net with checksConstraints := false }

/-- The request as a call on the marking of the net. -/
def callOf (net : Net) (r : Request) : Call :=
  ⟨r.action, r.bindings, net.evaluator, net.checksConstraints⟩

variable {net after : Net} {r : Request} {m : Marking} {evaluator : GuardEvaluator}

/-! ### The first violation -/

/-- No constraint is violated, or the first violation is about the first that does not hold. -/
theorem head?_violations (evaluator : GuardEvaluator) (tokens : Dict Int)
    (constraints : List Constraint) :
    constraints.filterMap (violation? evaluator tokens) = [] ∨
      ∃ v, (constraints.filterMap (violation? evaluator tokens)).head? = some v ∧
        v.fault.Blames constraints evaluator tokens := by
  induction constraints with
  | nil => exact Or.inl rfl
  | cons c rest ih =>
      rcases hc : evaluator.constraint c.expr tokens with e | holds
      · have hv : violation? evaluator tokens c = some ⟨c, some e⟩ := by
          simp only [violation?, hc]
        refine Or.inr ⟨⟨c, some e⟩, by rw [List.filterMap_cons_some hv]; rfl, [], c, rest, rfl, ?_⟩
        exact ⟨fun b hb => absurd hb List.not_mem_nil, rfl, Or.inr ⟨e, hc, rfl⟩⟩
      cases holds with
      | false =>
          have hv : violation? evaluator tokens c = some ⟨c, none⟩ := by
            simp only [violation?, hc]
          refine Or.inr ⟨⟨c, none⟩, by rw [List.filterMap_cons_some hv]; rfl, [], c, rest, rfl, ?_⟩
          exact ⟨fun b hb => absurd hb List.not_mem_nil, rfl, Or.inl ⟨hc, rfl⟩⟩
      | true =>
          have hv : violation? evaluator tokens c = none := by simp only [violation?, hc]
          rw [List.filterMap_cons_none hv]
          refine ih.imp_right ?_
          rintro ⟨v, hhead, before, d, later, rfl, hbefore, hd⟩
          exact ⟨v, hhead, c :: before, d, later, rfl, List.forall_mem_cons.mpr ⟨hc, hbefore⟩, hd⟩

theorem violations_of_evaluator (h : net.evaluator = some evaluator) :
    net.violations =
      net.schema.constraints.filterMap (violation? evaluator net.marking.tokens) := by
  unfold violations
  rw [h]

/-! ### One request -/

theorem run_callOf (net : Net) (r : Request) :
    (net.callOf r).run net.schema net.marking = net.serve r :=
  rfl

/-- A request fires its action or leaves the net. -/
theorem serve_cases (net : Net) (r : Request) :
    (∃ m, net.Fires r.action r.bindings m ∧ net.serve r = (.ok (), { net with marking := m })) ∨
      ∃ f, net.serve r = (.error f, net) := by
  unfold serve
  cases hb : r.bindings with
  | none =>
      refine (net.execute_cases r.action).imp_left ?_
      rintro ⟨-, m, -, hfires, heq⟩
      exact ⟨m, hfires, heq⟩
  | some b =>
      refine (net.executeWith_cases r.action b).imp_left ?_
      rintro ⟨-, m, -, -, hfires, heq⟩
      exact ⟨m, hfires, heq⟩

theorem serve_of_fires {act : Action} (haction : net.schema.action? r.action = some act)
    (hguard : (net.callOf r).guardFault? net act = none)
    (h : net.Fires r.action r.bindings m) :
    net.serve r = (.ok (), { net with marking := m }) := by
  have hid := (Schema.action?_some haction).2
  rw [← run_callOf, Call.run_eq]
  have hfire : net.fire act r.bindings = (.ok (), { net with marking := m }) :=
    fire_of_fires (hid.symm ▸ h)
  simp only [callOf, Call.on] at hguard ⊢
  simp only [haction, hguard, hfire]

/-- A request changes at most the marking. -/
theorem serve_frame (net : Net) (r : Request) :
    (net.serve r).2 = { net with marking := (net.serve r).2.marking } := by
  rcases net.serve_cases r with ⟨m, -, heq⟩ | ⟨f, heq⟩
  · rw [heq]
  · rw [heq]

/-- A request that is done leaves no constraint violated. -/
theorem violations_of_ok (hchecks : net.checksConstraints = true)
    (hok : (net.serve r).1 = .ok ()) : (net.serve r).2.violations = [] := by
  rcases net.serve_cases r with ⟨m, hfires, heq⟩ | ⟨f, heq⟩
  · rw [heq]
    exact hfires.sound hchecks
  · rw [heq] at hok
    cases hok

/-- No request violates a constraint where none is violated. -/
theorem violations_serve (hchecks : net.checksConstraints = true) (h : net.violations = [])
    (r : Request) : (net.serve r).2.violations = [] := by
  rcases net.serve_cases r with ⟨m, hfires, heq⟩ | ⟨f, heq⟩
  · rw [heq]
    exact hfires.sound hchecks
  · rw [heq]
    exact h

/-- Where the arcs lead to counts in which a constraint does not hold, the request fails over it. -/
theorem serve_of_violation {act : Action} {v : Violation}
    (haction : net.schema.action? r.action = some act)
    (hguard : (net.callOf r).guardFault? net act = none)
    (hfires : net.unchecked.Fires r.action r.bindings m)
    (hchecks : net.checksConstraints = true)
    (hv : (violations { net with marking := m }).head? = some v) :
    net.serve r = (.error v.fault, net) := by
  have hid := (Schema.action?_some haction).2
  have hstops : net.Stops act.id r.bindings v.fault :=
    .violated v m (hid.symm ▸ hfires.enabled) (hid.symm ▸ hfires.moved) hchecks hv
  exact Call.run_of_fails (c := net.callOf r) (.stopped act v.fault haction hguard hstops)

/-- A request that is done when constraints are left unchecked fails over them or not at all. -/
theorem serve_of_unchecked (hevaluator : net.evaluator = some evaluator)
    (hchecks : net.checksConstraints = true) (h : net.unchecked.serve r = (.ok (), after)) :
    (after.violations = [] ∧ net.serve r = (.ok (), { after with checksConstraints := true })) ∨
      ∃ f, f.Blames net.schema.constraints evaluator after.marking.tokens ∧
        net.serve r = (.error f, net) := by
  rcases net.unchecked.serve_cases r with ⟨m, hfires, heq⟩ | ⟨f, heq⟩
  · obtain rfl : { net.unchecked with marking := m } = after :=
      congrArg Prod.snd (heq.symm.trans h)
    -- neither the action nor its guard depends on whether constraints are checked
    obtain ⟨act, haction, hguard⟩ : ∃ act, net.schema.action? r.action = some act ∧
        (net.callOf r).guardFault? net act = none :=
      Call.passed_of_ok (c := net.unchecked.callOf r) (m := net.marking) (congrArg Prod.fst h)
    have hviolations : violations { net with marking := m } =
        net.schema.constraints.filterMap (violation? evaluator m.tokens) :=
      @violations_of_evaluator { net with marking := m } evaluator hevaluator
    rcases head?_violations evaluator m.tokens net.schema.constraints with hnone | ⟨v, hv, hblames⟩
    · have hsound : net.Fires r.action r.bindings m :=
        ⟨hfires.enabled, hfires.moved, fun _ => hviolations.trans hnone⟩
      refine Or.inl ⟨hviolations.trans hnone, ?_⟩
      rw [serve_of_fires haction hguard hsound, ← hchecks]
      rfl
    · exact Or.inr ⟨v.fault, hblames,
        serve_of_violation haction hguard hfires hchecks (hviolations ▸ hv)⟩
  · cases congrArg Prod.fst (heq.symm.trans h)

/-! ### Runs -/

theorem serveAll_frame (net : Net) (requests : List Request) :
    net.serveAll requests = { net with marking := (net.serveAll requests).marking } := by
  induction requests generalizing net with
  | nil => rfl
  | cons r rest ih =>
      show (net.serve r).2.serveAll rest =
        { net with marking := ((net.serve r).2.serveAll rest).marking }
      rw [ih, net.serve_frame r]

theorem violations_serveAll (hchecks : net.checksConstraints = true) (h : net.violations = [])
    (requests : List Request) : (net.serveAll requests).violations = [] := by
  induction requests generalizing net with
  | nil => exact h
  | cons r rest ih =>
      have hrest : (net.serve r).2.checksConstraints = true := by
        rw [net.serve_frame r]
        exact hchecks
      exact ih hrest (violations_serve hchecks h r)

/-- **Once a request was done, no constraint is violated any more**, whatever the net is asked for then
and from whatever marking it has started.  A request that only the constraints can stop is stopped
exactly if one does not hold in the counts that it leads to; it leaves the net as it was, and its fault
is about the first such constraint. -/
theorem constraints_hold (s : Schema) (evaluator : GuardEvaluator) (m : Marking)
    (before : List Request) (r : Request) :
    let net := serveAll ⟨s, m, some evaluator, true⟩ before
    ((net.serve r).1 = .ok () → ∀ later, ((net.serve r).2.serveAll later).violations = []) ∧
      ∀ after, net.unchecked.serve r = (.ok (), after) →
        (after.violations = [] ∧ net.serve r = (.ok (), { after with checksConstraints := true })) ∨
        ∃ f, f.Blames s.constraints evaluator after.marking.tokens ∧
          net.serve r = (.error f, net) := by
  intro net
  have hframe : net = ⟨s, net.marking, some evaluator, true⟩ := serveAll_frame _ before
  have hchecks : net.checksConstraints = true := by rw [hframe]
  refine ⟨fun hok later => violations_serveAll ?_ (violations_of_ok hchecks hok) later,
    fun after hafter => ?_⟩
  · rw [net.serve_frame r]
    exact hchecks
  · have hevaluator : net.evaluator = some evaluator := by rw [hframe]
    have hschema : net.schema = s := by rw [hframe]
    exact hschema ▸ serve_of_unchecked hevaluator hchecks hafter

/-- Seats that only constraints keep from being taken twice.  Where both are taken, the first constraint
divides by zero and the second is false. -/
def seats : Definition :=
  ⟨"seats", none, [.token "taken" 0], [.plain "take"], [.flow "take" "taken"],
    [⟨"spare", "2 / (2 - taken) >= 1"⟩, ⟨"room", "taken <= 1"⟩]⟩

/-- The schema of the seats. -/
def seating : Schema :=
  ⟨seats, .ofDefinition seats, Definition.check_of_isOk (by decide +kernel), rfl⟩

/-- The seats after one was taken. -/
def seated : Net :=
  serveAll ⟨seating, .initial seating, some (.standard []), true⟩ [⟨"take", none⟩]

/-- Whether a request is done can be computed. -/
theorem serve_of_isOk (h : (net.serve r).1.isOk = true) :
    net.serve r = (.ok (), (net.serve r).2) := by
  rcases net.serve_cases r with ⟨m, -, heq⟩ | ⟨f, heq⟩
  · rw [heq]
  · rw [heq] at h
    cases h

theorem constraints_hold_seated :
    seated.violations = [] ∧ ∃ f, f.Blames seats.constraints (.standard []) [("taken", 2)] ∧
      seated.serve ⟨"take", some []⟩ = (.error f, seated) := by
  have hfirst := constraints_hold seating (.standard []) (.initial seating) [] ⟨"take", none⟩
  have hsecond := constraints_hold seating (.standard []) (.initial seating) [⟨"take", none⟩]
    ⟨"take", some []⟩
  refine ⟨hfirst.1 (congrArg Prod.fst (serve_of_isOk (by decide +kernel))) [], ?_⟩
  rcases hsecond.2 _ (serve_of_isOk (by decide +kernel)) with ⟨hnone, -⟩ | ⟨f, hblames, hstopped⟩
  · have hviolated : (seated.unchecked.serve ⟨"take", some []⟩).2.violations.isEmpty = false := by
      decide +kernel
    exact absurd (List.isEmpty_iff.mpr hnone) (Bool.eq_false_iff.mp hviolated)
  · have htaken : (seated.unchecked.serve ⟨"take", some []⟩).2.marking.tokens = [("taken", 2)] := by
      decide +kernel
    exact ⟨f, htaken ▸ hblames, hstopped⟩

end Net

end EventNet
