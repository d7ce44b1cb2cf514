import EventNet.Proofs.Net.Counts

/-!
What a failed call leaves behind: nothing.

A call can fail at its action, its guard and the test whether the action is enabled, before anything
has changed; at any arc, after the arcs before it have moved tokens and data; and at a constraint, after
all arcs have.  `Stops` and `Fails` list these exits with the marking that had been reached, and a
call is shown to fail exactly at one of them and to give back the net it was made on.  So failed calls
can be left out of a run.
-/

namespace EventNet

namespace Net

variable {net net' : Net} {action : String} {bindings : Option Bindings} {f : Fault}

/-- How firing an action fails.  `mid` is the marking that its arcs had led to. -/
inductive Stops (net : Net) (action : String) (bindings : Option Bindings) : Fault → Prop
  | disabled (henabled : net.enabled action = false) :
      Stops net action bindings (.actionNotEnabled action)
  | broken (f : Fault) (mid : Marking) (henabled : net.enabled action = true)
      (hmoved : (move net.schema action bindings).run net.marking = (.error f, mid)) :
      Stops net action bindings f
  | violated (v : Violation) (mid : Marking) (henabled : net.enabled action = true)
      (hmoved : (move net.schema action bindings).run net.marking = (.ok (), mid))
      (hchecks : net.checksConstraints = true)
      (hviolated : (violations { net with marking := mid }).head? = some v) :
      Stops net action bindings v.fault

theorem fire_of_stops {act : Action} (h : net.Stops act.id bindings f) :
    net.fire act bindings = (.error f, net) := by
  unfold fire
  cases h with
  | disabled henabled => simp [henabled]
  | broken f mid henabled hmoved => simp [henabled, hmoved]
  | violated v mid henabled hmoved hchecks hviolated =>
      have hfound : (if net.checksConstraints then
          (violations { net with marking := mid }).head? else none) = some v := by
        rw [if_pos hchecks]
        exact hviolated
      simp [henabled, hmoved, hfound]

theorem fire_eq_error {act : Action} (h : net.fire act bindings = (.error f, net')) :
    net.Stops act.id bindings f := by
  unfold fire at h
  by_cases he : net.enabled act.id = true
  · rcases hm : (move net.schema act.id bindings).run net.marking with ⟨f' | ⟨⟩, mid⟩
    · simp only [he, hm, Bool.not_true, Bool.false_eq_true, if_false] at h
      obtain rfl : f' = f := Except.error.inj (congrArg Prod.fst h)
      exact .broken f' mid he hm
    · simp only [he, hm, Bool.not_true, Bool.false_eq_true, if_false] at h
      by_cases hc : net.checksConstraints = true
      · rw [if_pos hc] at h
        split at h
        · rename_i v hv
          obtain rfl : v.fault = f := Except.error.inj (congrArg Prod.fst h)
          exact .violated v mid he hm hc hv
        · cases congrArg Prod.fst h
      · rw [if_neg hc] at h
        cases congrArg Prod.fst h
  · have hdisabled : net.enabled act.id = false := by simpa using he
    simp only [hdisabled, Bool.not_false, if_true] at h
    obtain rfl : Fault.actionNotEnabled act.id = f := Except.error.inj (congrArg Prod.fst h)
    exact .disabled hdisabled

end Net

namespace Call

variable {c : Call} {s : Schema} {m : Marking} {f : Fault}

/-- The net a call is made on. -/
def on (c : Call) (s : Schema) (m : Marking) : Net :=
  ⟨s, m, c.evaluator, c.checksConstraints⟩

/-- Why the guard of an action refuses a call; without bindings it is not looked at. -/
def guardFault? (c : Call) (net : Net) (act : Action) : Option Fault :=
  c.bindings.bind (net.guardFault? act)

/-- Both kinds of calls look for the action, then at its guard, and then fire it. -/
theorem run_eq (c : Call) (s : Schema) (m : Marking) :
    c.run s m =
      match s.action? c.action with
      | none => (.error (.actionNotFound c.action), c.on s m)
      | some act =>
        match c.guardFault? (c.on s m) act with
        | some f => (.error f, c.on s m)
        | none => (c.on s m).fire act c.bindings := by
  unfold run guardFault?
  cases c.bindings with
  | none =>
      show Net.execute (c.on s m) c.action = _
      unfold Net.execute
      rfl
  | some b =>
      show Net.executeWith (c.on s m) c.action b = _
      unfold Net.executeWith
      rfl

/-- How a call fails. -/
inductive Fails (c : Call) (net : Net) : Fault → Prop
  | unknown (haction : net.schema.action? c.action = none) : Fails c net (.actionNotFound c.action)
  | refused (act : Action) (f : Fault) (haction : net.schema.action? c.action = some act)
      (hguard : c.guardFault? net act = some f) : Fails c net f
  | stopped (act : Action) (f : Fault) (haction : net.schema.action? c.action = some act)
      (hguard : c.guardFault? net act = none) (hstops : net.Stops act.id c.bindings f) : Fails c net f

theorem run_of_fails (h : c.Fails (c.on s m) f) : c.run s m = (.error f, c.on s m) := by
  rw [run_eq]
  cases h with
  | unknown haction =>
      have hnone : s.action? c.action = none := haction
      rw [hnone]
  | refused act f haction hguard =>
      have hsome : s.action? c.action = some act := haction
      simp only [hsome, hguard]
  | stopped act f haction hguard hstops =>
      have hsome : s.action? c.action = some act := haction
      simp only [hsome, hguard]
      exact Net.fire_of_stops hstops

/-- The guard of a call that does not fail has passed. -/
theorem guardFault?_of_ok {act : Action} (haction : s.action? c.action = some act)
    (h : (c.run s m).1 = .ok ()) : c.guardFault? (c.on s m) act = none := by
  cases hguard : c.guardFault? (c.on s m) act with
  | none => rfl
  | some f =>
      rw [run_of_fails (.refused act f haction hguard)] at h
      cases h

theorem fails_of_run {net' : Net} (h : c.run s m = (.error f, net')) : c.Fails (c.on s m) f := by
  rw [run_eq] at h
  cases haction : s.action? c.action with
  | none =>
      rw [haction] at h
      obtain rfl : Fault.actionNotFound c.action = f := Except.error.inj (congrArg Prod.fst h)
      exact .unknown haction
  | some act =>
      simp only [haction] at h
      cases hguard : c.guardFault? (c.on s m) act with
      | some f' =>
          rw [hguard] at h
          obtain rfl : f' = f := Except.error.inj (congrArg Prod.fst h)
          exact .refused act f' haction hguard
      | none =>
          rw [hguard] at h
          exact .stopped act f haction hguard (Net.fire_eq_error h)

/-- **A call fails exactly at one of its exits, and then it leaves the net it was made on.** -/
theorem run_eq_error_iff (c : Call) (s : Schema) (m : Marking) (f : Fault) (net : Net) :
    c.run s m = (.error f, net) ↔ c.Fails (c.on s m) f ∧ net = c.on s m := by
  constructor
  · intro h
    have hfails := fails_of_run h
    have hrun := run_of_fails hfails
    exact ⟨hfails, congrArg Prod.snd (h.symm.trans hrun)⟩
  · rintro ⟨hfails, rfl⟩
    exact run_of_fails hfails

/-- An account that is charged and notes for what, where the note has to come with the call. -/
def charging : Definition :=
  ⟨"charging", none, [.token "credit" 3, .data "note" "string"], [.plain "charge"],
    [.flow "credit" "charge", ⟨"charge", "note", 1, [], "text", false⟩], []⟩

example : ∀ s, Schema.ofDefinition charging = .ok s →
    ((Net.move s "charge" (some [])).run (.initial s)).2.tokens = [("credit", 2)] ∧
      (run ⟨"charge", some [], none, true⟩ s (.initial s)).2.marking.tokens = [("credit", 3)] := by
  intro s h
  cases h
  exact ⟨rfl, rfl⟩

/-! ### Runs -/

/-- The marking after some calls, made one after the other. -/
def afterAll (s : Schema) (m : Marking) (calls : List Call) : Marking :=
  calls.foldl (fun m c => c.after s m) m

/-- The calls of a run that do not fail. -/
def accepted (s : Schema) (m : Marking) : List Call → List Call
  | [] => []
  | c :: rest =>
    match (c.run s m).1 with
    | .ok () => c :: accepted s (c.after s m) rest
    | .error _ => accepted s (c.after s m) rest

theorem after_of_failed (h : (c.run s m).1 = .error f) : c.after s m = m := by
  rcases c.cases s m with ⟨act, -, hok, -⟩ | ⟨-, hsame⟩
  · cases h.symm.trans hok
  · exact hsame

/-- A run without its failed calls leads to the same marking, and none of what is left fails. -/
theorem afterAll_accepted (s : Schema) (m : Marking) (calls : List Call) :
    afterAll s m (accepted s m calls) = afterAll s m calls ∧
      accepted s m (accepted s m calls) = accepted s m calls := by
  induction calls generalizing m with
  | nil => exact ⟨rfl, rfl⟩
  | cons c rest ih =>
      have hrest := ih (c.after s m)
      cases hc : (c.run s m).1 with
      | ok u =>
          have hhead : accepted s m (c :: rest) = c :: accepted s (c.after s m) rest := by
            simp [accepted, hc]
          rw [hhead]
          refine ⟨hrest.1, ?_⟩
          simp [accepted, hc, hrest.2]
      | error f =>
          have hskip : accepted s m (c :: rest) = accepted s (c.after s m) rest := by
            simp [accepted, hc]
          have hsame := after_of_failed hc
          rw [hskip, hsame]
          rw [hsame] at hrest
          refine ⟨hrest.1.trans ?_, hrest.2⟩
          show afterAll s m rest = afterAll s (c.after s m) rest
          rw [hsame]

end Call

end EventNet
