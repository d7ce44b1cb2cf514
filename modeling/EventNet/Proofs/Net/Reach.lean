import EventNet.Net.Reach
import EventNet.Proofs.Net.Complete

/-!
The reachability probe finds what can be reached.

Firing without bindings depends on the counts alone, so the probe walks over counts.  It remembers them by
their token keys, and is right as long as these tell apart the counts that it comes by (`Net.Told`): keys of
counts of the same states are equal only for equal counts.  So at every level all that is remembered is
either in the level or has been expanded: its successors are remembered, and none of them meets the target.
A walk to the target therefore leads through the level, and the next level is one step closer to its end.
-/

namespace EventNet

namespace Net

/-- Execute actions one after the other; none once one of them fails. -/
def executeAll (net : Net) : List String → Option Net
  | [] => some net
  | action :: rest =>
    match net.execute action with
    | (.ok (), after) => after.executeAll rest
    | (.error _, _) => none

/-! ### Steps between counts -/

/-- An action is enabled at some counts, and no checked constraint keeps it from firing. -/
def Admits (net : Net) (action : String) (tokens : Dict Int) : Prop :=
  (net.atTokens tokens).enabled action = true ∧
    (net.checksConstraints = true →
      (net.atTokens (net.schema.moveTokens action tokens)).violations = [])

/-- Counts that some actions lead to. -/
def Successor (net : Net) (actions : List Action) (tokens after : Dict Int) : Prop :=
  ∃ a ∈ actions, net.Admits a.id tokens ∧ after = net.schema.moveTokens a.id tokens

/-- Counts that declared actions lead to, one after the other. -/
inductive Walk (net : Net) : List String → Dict Int → Dict Int → Prop
  | done (tokens : Dict Int) : Walk net [] tokens tokens
  | step {a : Action} {rest : List String} {tokens after : Dict Int} (ha : a ∈ net.schema.actions)
      (hadmits : net.Admits a.id tokens)
      (hrest : Walk net rest (net.schema.moveTokens a.id tokens) after) :
      Walk net (a.id :: rest) tokens after

variable {net : Net} {act : Action} {action : String} {actions : List Action}
  {tokens after target : Dict Int}

/-! ### Executed actions -/

theorem fires_none_iff {after : Marking} : net.Fires action none after ↔
    net.Admits action net.marking.tokens ∧
      after = { net.marking with tokens := net.schema.moveTokens action net.marking.tokens } := by
  constructor
  · rintro ⟨henabled, hmoved, hsound⟩
    rw [run_move_none] at hmoved
    obtain rfl := (Prod.mk.inj hmoved).2
    exact ⟨⟨henabled, hsound⟩, rfl⟩
  · rintro ⟨⟨henabled, hsound⟩, rfl⟩
    exact ⟨henabled, run_move_none _ _ _, hsound⟩

/-- Whether an action fires without bindings is a matter of the counts, and so is where it leads. -/
theorem fire_of_admits {m : Marking} (h : net.Admits act.id m.tokens) :
    fire { net with marking := m } act none =
      (.ok (), { net with
        marking := { m with tokens := net.schema.moveTokens act.id m.tokens } }) := by
  have hfires : Fires { net with marking := m } act.id none
      { m with tokens := net.schema.moveTokens act.id m.tokens } := fires_none_iff.mpr ⟨h, rfl⟩
  exact fire_of_fires hfires

theorem fire_of_not_admits {m : Marking} (h : ¬ net.Admits act.id m.tokens) :
    ∃ f, fire { net with marking := m } act none = (.error f, { net with marking := m }) := by
  rcases fire_cases { net with marking := m } act none with ⟨after, hfires, -⟩ | hfails
  · exact absurd (fires_none_iff.mp hfires).1 h
  · exact hfails

/-- Actions that can be executed one after the other walk over counts. -/
theorem walk_of_executeAll {ids : List String} {m : Marking} {after : Net}
    (h : executeAll { net with marking := m } ids = some after) :
    net.Walk ids m.tokens after.marking.tokens := by
  induction ids generalizing m with
  | nil =>
      obtain rfl := Option.some.inj h
      exact .done _
  | cons id rest ih =>
      unfold executeAll execute at h
      cases hact : net.schema.action? id with
      | none =>
          simp only [hact] at h
          cases h
      | some act =>
          obtain ⟨hmem, rfl⟩ := Schema.action?_some hact
          simp only [hact] at h
          by_cases hadmits : net.Admits act.id m.tokens
          · simp only [fire_of_admits hadmits] at h
            exact .step hmem hadmits (ih h)
          · obtain ⟨f, hf⟩ := fire_of_not_admits hadmits
            simp only [hf] at h
            cases h

theorem executeAll_of_walk {ids : List String} (h : net.Walk ids tokens after) (data : Dict Value) :
    executeAll { net with marking := ⟨tokens, data⟩ } ids =
      some { net with marking := ⟨after, data⟩ } := by
  induction h with
  | done tokens => rfl
  | @step a rest tokens after ha hadmits _ ih =>
      unfold executeAll execute
      simp only [Schema.action?_of_mem ha, fire_of_admits (m := ⟨tokens, data⟩) hadmits]
      exact ih

/-! ### Probes -/

/-- The token key of counts. -/
def keyOf (tokens : Dict Int) : String :=
  Marking.tokenKey ⟨tokens, []⟩

/-- Whether counts are those of a target. -/
def Meets (tokens target : Dict Int) : Prop :=
  Marking.matchesTokens ⟨tokens, []⟩ target = true

/-- What a probe has grown by when it has visited some counts, none of which meets the target. -/
structure Probe.Grown (p q : Probe) (target : Dict Int) (visits : Dict Int → Prop) : Prop where
  kept : ∀ k ∈ p.visited, k ∈ q.visited
  queued : ∀ t ∈ p.next, t ∈ q.next
  /-- Only what was visited is to be expanded. -/
  found : ∀ t ∈ q.next, t ∈ p.next ∨ visits t
  /-- A new key is that of counts which are to be expanded. -/
  fresh : ∀ k ∈ q.visited, k ∈ p.visited ∨ ∃ t ∈ q.next, keyOf t = k
  remembered : ∀ t, visits t → keyOf t ∈ q.visited
  unmet : ∀ t, visits t → ¬ Meets t target

namespace Probe

variable {p q r : Probe} {visits others : Dict Int → Prop}

theorem Grown.refl (p : Probe) (target : Dict Int) : p.Grown p target fun _ => False :=
  ⟨fun _ h => h, fun _ h => h, fun _ h => Or.inl h, fun _ h => Or.inl h, fun _ h => h.elim,
    fun _ h => h.elim⟩

theorem Grown.trans (h : p.Grown q target visits) (h' : q.Grown r target others) :
    p.Grown r target fun t => visits t ∨ others t where
  kept k hk := h'.kept k (h.kept k hk)
  queued t ht := h'.queued t (h.queued t ht)
  found t ht := by
    rcases h'.found t ht with hq | hvisits
    · exact (h.found t hq).imp_right Or.inl
    · exact Or.inr (Or.inr hvisits)
  fresh k hk := by
    rcases h'.fresh k hk with hq | hnew
    · rcases h.fresh k hq with hp | ⟨t, ht, hkey⟩
      · exact Or.inl hp
      · exact Or.inr ⟨t, h'.queued t ht, hkey⟩
    · exact Or.inr hnew
  remembered t ht := ht.elim (fun hv => h'.kept _ (h.remembered t hv)) (h'.remembered t)
  unmet t ht := ht.elim (h.unmet t) (h'.unmet t)

theorem grown_visit (p : Probe) {tokens : Dict Int} (h : ¬ Meets tokens target) :
    p.Grown (p.visit ⟨tokens, []⟩) target (· = tokens) := by
  have hunmet : ∀ t, t = tokens → ¬ Meets t target := by
    rintro t rfl
    exact h
  unfold visit
  by_cases hknown : p.visited.contains (Marking.tokenKey ⟨tokens, []⟩) = true
  · rw [if_pos hknown]
    refine ⟨fun _ hk => hk, fun _ ht => ht, fun _ ht => Or.inl ht, fun _ hk => Or.inl hk, ?_, hunmet⟩
    rintro t rfl
    exact Std.HashSet.mem_iff_contains.mpr hknown
  · rw [if_neg hknown]
    refine ⟨?_, fun _ ht => List.mem_cons_of_mem tokens ht, ?_, ?_, ?_, hunmet⟩
    · intro k hk
      exact Std.HashSet.mem_insert.mpr (Or.inr hk)
    · intro t ht
      exact (List.mem_cons.mp ht).symm
    · intro k hk
      rcases Std.HashSet.mem_insert.mp hk with hkey | hk
      · exact Or.inr ⟨tokens, List.mem_cons_self, eq_of_beq hkey⟩
      · exact Or.inl hk
    · rintro t rfl
      exact Std.HashSet.mem_insert_self

end Probe

/-- What a probe answers after visiting some counts: none if one of them meets the target. -/
def Answers (p : Probe) (target : Dict Int) (visits : Dict Int → Prop) : Option Probe → Prop
  | none => ∃ t, visits t ∧ Meets t target
  | some q => p.Grown q target visits

theorem Answers.congr {p : Probe} {visits others : Dict Int → Prop} {answer : Option Probe}
    (h : Answers p target visits answer) (heq : ∀ t, others t ↔ visits t) :
    Answers p target others answer := by
  obtain rfl : others = visits := funext fun t => propext (heq t)
  exact h

/-- The answer after some visits, when those visits have been made already. -/
theorem Answers.visited {p q : Probe} {visits others : Dict Int → Prop} {answer : Option Probe}
    (h : p.Grown q target visits) (hanswer : Answers q target others answer) :
    Answers p target (fun t => visits t ∨ others t) answer := by
  cases answer with
  | none =>
      obtain ⟨t, ht, hmeets⟩ := hanswer
      exact ⟨t, Or.inr ht, hmeets⟩
  | some r => exact h.trans hanswer

theorem successor_cons {a : Action} : net.Successor (a :: actions) tokens after ↔
    net.Admits a.id tokens ∧ after = net.schema.moveTokens a.id tokens ∨
      net.Successor actions tokens after := by
  unfold Successor
  rw [List.exists_mem_cons_iff]

/-- An action that fires at some counts either meets the target or visits what it leads to. -/
theorem value_expand_of_admits {a : Action} (h : net.Admits a.id tokens) (p : Probe) :
    (expand net target tokens (a :: actions) p).value =
      if Marking.matchesTokens ⟨net.schema.moveTokens a.id tokens, []⟩ target = true then none
      else (expand net target tokens actions
        (p.visit ⟨net.schema.moveTokens a.id tokens, []⟩)).value := by
  have hfire : (net.atTokens tokens).fire a none =
      (.ok (), net.atTokens (net.schema.moveTokens a.id tokens)) :=
    fire_of_admits (m := ⟨tokens, []⟩) h
  rw [expand]
  simp only [hfire]
  exact apply_ite Traced.value _ _ _

/-- An action that does not fire is passed over. -/
theorem value_expand_of_not_admits {a : Action} (h : ¬ net.Admits a.id tokens) (p : Probe) :
    (expand net target tokens (a :: actions) p).value = (expand net target tokens actions p).value := by
  obtain ⟨f, hf⟩ := fire_of_not_admits (m := ⟨tokens, []⟩) h
  have hfire : (net.atTokens tokens).fire a none = (.error f, net.atTokens tokens) := hf
  rw [expand]
  simp only [hfire]
  rfl

/-- Firing each action at some counts visits what they lead to. -/
theorem answers_expand (net : Net) (target tokens : Dict Int) (actions : List Action) (p : Probe) :
    Answers p target (net.Successor actions tokens) (expand net target tokens actions p).value := by
  induction actions generalizing p with
  | nil =>
      have hnone : Answers p target (fun _ => False) (some p) := Probe.Grown.refl p target
      exact hnone.congr fun t => iff_of_false (fun ⟨_, ha, _⟩ => List.not_mem_nil ha) id
  | cons a rest ih =>
      by_cases hadmits : net.Admits a.id tokens
      · rw [value_expand_of_admits hadmits]
        split
        · rename_i hmeets
          exact ⟨_, successor_cons.mpr (Or.inl ⟨hadmits, rfl⟩), hmeets⟩
        · rename_i hmeets
          refine (Answers.visited (p.grown_visit hmeets) (ih _)).congr fun t => ?_
          rw [successor_cons, and_iff_right hadmits]
      · rw [value_expand_of_not_admits hadmits]
        refine (ih p).congr fun t => ?_
        rw [successor_cons, or_iff_right fun h => hadmits h.1]

/-- Expanding a level visits what its counts lead to. -/
theorem answers_expandAll (net : Net) (target : Dict Int) (level : List (Dict Int)) (p : Probe) :
    Answers p target (fun t => ∃ tokens ∈ level, net.Successor net.schema.actions tokens t)
      (expandAll net target level p).value := by
  induction level generalizing p with
  | nil =>
      have hnone : Answers p target (fun _ => False) (some p) := Probe.Grown.refl p target
      exact hnone.congr fun t => iff_of_false (fun ⟨_, htokens, _⟩ => List.not_mem_nil htokens) id
  | cons tokens rest ih =>
      have hfirst := answers_expand net target tokens net.schema.actions p
      unfold expandAll
      rw [Traced.value_bind]
      cases hvalue : (expand net target tokens net.schema.actions p).value with
      | none =>
          rw [hvalue] at hfirst
          obtain ⟨t, ht, hmeets⟩ := hfirst
          exact ⟨t, ⟨tokens, List.mem_cons_self, ht⟩, hmeets⟩
      | some q =>
          rw [hvalue] at hfirst
          refine (Answers.visited hfirst (ih q)).congr fun t => ?_
          rw [List.exists_mem_cons_iff]

/-! ### Levels -/

/-- One step ahead of a walk. -/
theorem walk_of_successor {t : Dict Int} (h : net.Successor net.schema.actions tokens t)
    {ids : List String} (hwalk : net.Walk ids t after) :
    ∃ id, net.Walk (id :: ids) tokens after := by
  obtain ⟨a, ha, hadmits, rfl⟩ := h
  exact ⟨a.id, .step ha hadmits hwalk⟩

/-- What is found is at the end of a walk. -/
theorem walk_of_expandLevels {steps : Nat} {level : List (Dict Int)} {visited : Std.HashSet String}
    (h : (expandLevels net target steps level visited).value = true) :
    ∃ tokens ∈ level, ∃ ids after, ids.length ≤ steps ∧ net.Walk ids tokens after ∧
      Meets after target := by
  induction steps generalizing level visited with
  | zero => cases h
  | succ steps ih =>
      unfold expandLevels at h
      by_cases hlevel : level.isEmpty = true
      · rw [if_pos hlevel] at h
        cases h
      · rw [if_neg hlevel, Traced.value_bind] at h
        have hanswer := answers_expandAll net target level ⟨visited, []⟩
        cases hvalue : (expandAll net target level ⟨visited, []⟩).value with
        | none =>
            rw [hvalue] at hanswer
            obtain ⟨after, ⟨tokens, htokens, hstep⟩, hmeets⟩ := hanswer
            obtain ⟨id, hwalk⟩ := walk_of_successor hstep (.done after)
            exact ⟨tokens, htokens, [id], after, Nat.succ_le_succ (Nat.zero_le _), hwalk, hmeets⟩
        | some q =>
            rw [hvalue] at h hanswer
            obtain ⟨t, ht, ids, after, hlength, hwalk, hmeets⟩ := ih h
            obtain ⟨tokens, htokens, hstep⟩ :=
              (hanswer.found t (List.mem_reverse.mp ht)).resolve_left List.not_mem_nil
            obtain ⟨id, hwalk⟩ := walk_of_successor hstep hwalk
            exact ⟨tokens, htokens, id :: ids, after, Nat.succ_le_succ hlength, hwalk, hmeets⟩

/-- Counts of which actions lead to others of the kind, and which are told apart by their keys. -/
structure Told (net : Net) (among : Dict Int → Prop) : Prop where
  moved : ∀ t t', among t → net.Successor net.schema.actions t t' → among t'
  keyed : ∀ t t', among t → among t' → keyOf t = keyOf t' → t = t'

variable {among : Dict Int → Prop}

/-- Counts of a kind, whose key is remembered. -/
structure Known (among : Dict Int → Prop) (visited : Std.HashSet String) (tokens : Dict Int) : Prop where
  counted : among tokens
  visited : keyOf tokens ∈ visited

/-- What holds between levels: no known counts meet the target, and those which are not in the level
lead to known counts only. -/
structure Searched (net : Net) (among : Dict Int → Prop) (target : Dict Int) (level : List (Dict Int))
    (visited : Std.HashSet String) : Prop where
  known : ∀ t ∈ level, Known among visited t
  unmet : ∀ t, Known among visited t → ¬ Meets t target
  expanded : ∀ t, Known among visited t → t ∈ level ∨
    ∀ t', net.Successor net.schema.actions t t' → Known among visited t'

/-- A walk from known counts to the target leads through the level. -/
theorem Searched.through {level : List (Dict Int)} {visited : Std.HashSet String}
    (h : net.Searched among target level visited) {ids : List String} (hwalk : net.Walk ids tokens after)
    (htokens : Known among visited tokens) (hmeets : Meets after target) :
    ∃ t ∈ level, ∃ t' id rest, net.Successor net.schema.actions t t' ∧ net.Walk rest t' after ∧
      (id :: rest).length ≤ ids.length := by
  induction hwalk with
  | done tokens => exact absurd hmeets (h.unmet tokens htokens)
  | @step a rest tokens after ha hadmits hrest ih =>
      have hstep : net.Successor net.schema.actions tokens (net.schema.moveTokens a.id tokens) :=
        ⟨a, ha, hadmits, rfl⟩
      rcases h.expanded tokens htokens with hlevel | hknown
      · exact ⟨tokens, hlevel, _, a.id, rest, hstep, hrest, Nat.le_refl _⟩
      · obtain ⟨t, ht, t', id, rest', hstep', hwalk', hlength⟩ := ih (hknown _ hstep) hmeets
        exact ⟨t, ht, t', id, rest', hstep', hwalk', Nat.le_succ_of_le hlength⟩

/-- Expanding a level keeps this for the next one. -/
theorem Searched.next (htold : net.Told among) {level : List (Dict Int)}
    {visited : Std.HashSet String} {q : Probe} (h : net.Searched among target level visited)
    (hgrown : Probe.Grown ⟨visited, []⟩ q target
      fun t => ∃ tokens ∈ level, net.Successor net.schema.actions tokens t) :
    net.Searched among target q.next.reverse q.visited := by
  have hstep : ∀ t ∈ q.next, ∃ tokens ∈ level, net.Successor net.schema.actions tokens t :=
    fun t ht => (hgrown.found t ht).resolve_left List.not_mem_nil
  have hsuccessor : ∀ t ∈ level, ∀ t', net.Successor net.schema.actions t t' →
      Known among q.visited t' := fun t ht t' hst =>
    ⟨htold.moved t t' (h.known t ht).counted hst, hgrown.remembered t' ⟨t, ht, hst⟩⟩
  have hnext : ∀ t ∈ q.next, Known among q.visited t := by
    intro t ht
    obtain ⟨tokens, htokens, hst⟩ := hstep t ht
    exact hsuccessor tokens htokens t hst
  -- what is remembered was known before, or its key is that of counts in the next level
  have hcases : ∀ t, Known among q.visited t → Known among visited t ∨ t ∈ q.next := by
    intro t ht
    rcases hgrown.fresh (keyOf t) ht.visited with hold | ⟨t', ht', hkey⟩
    · exact Or.inl ⟨ht.counted, hold⟩
    · obtain rfl := htold.keyed t' t (hnext t' ht').counted ht.counted hkey
      exact Or.inr ht'
  refine ⟨?_, ?_, ?_⟩
  · intro t ht
    exact hnext t (List.mem_reverse.mp ht)
  · intro t ht
    rcases hcases t ht with hold | hnew
    · exact h.unmet t hold
    · exact hgrown.unmet t (hstep t hnew)
  · intro t ht
    rcases hcases t ht with hold | hnew
    · refine Or.inr fun t' hst => ?_
      rcases h.expanded t hold with hlevel | hknown
      · exact hsuccessor t hlevel t' hst
      · have hold' := hknown t' hst
        exact ⟨hold'.counted, hgrown.kept _ hold'.visited⟩
    · exact Or.inl (List.mem_reverse.mpr hnew)

/-- What a walk of as many steps leads to is found. -/
theorem expandLevels_of_walk (htold : net.Told among) {steps : Nat} {level : List (Dict Int)}
    {visited : Std.HashSet String} (h : net.Searched among target level visited) {ids : List String}
    (htokens : Known among visited tokens) (hwalk : net.Walk ids tokens after)
    (hlength : ids.length ≤ steps) (hmeets : Meets after target) :
    (expandLevels net target steps level visited).value = true := by
  induction steps generalizing level visited ids tokens with
  | zero =>
      obtain ⟨t, -, t', id, rest, -, -, hle⟩ := h.through hwalk htokens hmeets
      rw [List.length_cons] at hle
      omega
  | succ steps ih =>
      obtain ⟨t, ht, t', id, rest, hstep, hrest, hle⟩ := h.through hwalk htokens hmeets
      have hlevel : ¬ level.isEmpty = true := by
        intro hempty
        rw [List.isEmpty_iff.mp hempty] at ht
        exact List.not_mem_nil ht
      have hanswer := answers_expandAll net target level ⟨visited, []⟩
      unfold expandLevels
      rw [if_neg hlevel, Traced.value_bind]
      cases hvalue : (expandAll net target level ⟨visited, []⟩).value with
      | none => rfl
      | some q =>
          rw [hvalue] at hanswer
          have hknown : Known among q.visited t' :=
            ⟨htold.moved t t' (h.known t ht).counted hstep, hanswer.remembered t' ⟨t, ht, hstep⟩⟩
          rw [List.length_cons] at hle
          exact ih (h.next htold hanswer) hknown hrest (by omega)

/-! ### The probe -/

/-- The search starts with one level. -/
theorem searched_start (htold : net.Told among) (htokens : among tokens) (h : ¬ Meets tokens target) :
    net.Searched among target [tokens] (Std.HashSet.emptyWithCapacity.insert (keyOf tokens)) := by
  have hknown : Known among (Std.HashSet.emptyWithCapacity.insert (keyOf tokens)) tokens :=
    ⟨htokens, Std.HashSet.mem_insert_self⟩
  have honly : ∀ t, Known among (Std.HashSet.emptyWithCapacity.insert (keyOf tokens)) t →
      t = tokens := by
    intro t ht
    refine htold.keyed t tokens ht.counted htokens ?_
    rcases Std.HashSet.mem_insert.mp ht.visited with hkey | hnone
    · exact (eq_of_beq hkey).symm
    · exact absurd hnone Std.HashSet.not_mem_emptyWithCapacity
  refine ⟨?_, ?_, ?_⟩
  · intro t ht
    obtain rfl := List.mem_singleton.mp ht
    exact hknown
  · intro t ht
    rw [honly t ht]
    exact h
  · intro t ht
    exact Or.inl (List.mem_singleton.mpr (honly t ht))

theorem matchesTokens_iff {m : Marking} :
    m.matchesTokens target = true ↔ ∀ e ∈ target, m.count e.1 = e.2 := by
  unfold Marking.matchesTokens
  simp

/-- Where keys tell counts apart the probe answers whether a walk leads to the target. -/
theorem canReach_iff_walk_of_told (htold : net.Told among) (htokens : among net.marking.tokens)
    (steps : Nat) :
    (canReach net target steps).value = true ↔ ∃ ids after, ids.length ≤ steps ∧
      net.Walk ids net.marking.tokens after ∧ Meets after target := by
  unfold canReach
  by_cases hmeets : net.marking.matchesTokens target = true
  · rw [if_pos hmeets]
    exact iff_of_true rfl ⟨[], _, Nat.zero_le steps, .done _, hmeets⟩
  · rw [if_neg hmeets]
    constructor
    · intro h
      obtain ⟨tokens, hlevel, ids, after, hlength, hwalk, hafter⟩ := walk_of_expandLevels h
      obtain rfl := List.mem_singleton.mp hlevel
      exact ⟨ids, after, hlength, hwalk, hafter⟩
    · rintro ⟨ids, after, hlength, hwalk, hafter⟩
      have hsearched := searched_start htold htokens hmeets
      have hstart := hsearched.known _ List.mem_cons_self
      exact expandLevels_of_walk htold hsearched hstart hwalk hlength hafter

/-- Counts of all token states are told apart by their keys. -/
theorem told_over (net : Net) : net.Told (·.Over net.schema.isTokenState) := by
  refine ⟨fun t t' ht hstep => ?_, fun t t' ht ht' hkey => ?_⟩
  · obtain ⟨a, -, -, rfl⟩ := hstep
    exact Schema.over_moveTokens ht a.id
  · exact Marking.tokenKey_inj (m := ⟨t, []⟩) (n := ⟨t', []⟩) (ht.keys_eq ht') hkey

/-- The probe answers whether a walk leads to the target. -/
theorem canReach_iff_walk (htokens : net.marking.tokens.Over net.schema.isTokenState) (steps : Nat) :
    (canReach net target steps).value = true ↔ ∃ ids after, ids.length ≤ steps ∧
      net.Walk ids net.marking.tokens after ∧ Meets after target :=
  canReach_iff_walk_of_told (told_over net) htokens steps

/-- **The probe is exact.**  From a marking that is reached it answers true just in case at most the given
number of actions can be executed one after the other, each of them enabled and keeping the constraints
where they are checked, so that the counts at the end are those of the target. -/
theorem canReach_iff {s : Schema} {m : Marking} (hm : s.Reached m) (evaluator : Option GuardEvaluator)
    (checks : Bool) (target : Dict Int) (steps : Nat) :
    (canReach ⟨s, m, evaluator, checks⟩ target steps).value = true ↔
      ∃ ids : List String, ids.length ≤ steps ∧ ∃ after,
        executeAll ⟨s, m, evaluator, checks⟩ ids = some after ∧
          ∀ e ∈ target, after.marking.count e.1 = e.2 := by
  have htokens : (⟨s, m, evaluator, checks⟩ : Net).marking.tokens.Over s.isTokenState :=
    hm.complete.tokens
  rw [canReach_iff_walk htokens]
  constructor
  · rintro ⟨ids, after, hlength, hwalk, hmeets⟩
    exact ⟨ids, hlength, _, executeAll_of_walk hwalk m.data, matchesTokens_iff.mp hmeets⟩
  · rintro ⟨ids, hlength, after, hrun, hcounts⟩
    exact ⟨ids, after.marking.tokens, hlength, walk_of_executeAll (m := m) hrun,
      matchesTokens_iff.mpr hcounts⟩

theorem canReach_workshop :
    Call.workshop.Reached (.initial Call.workshop) ∧
      (canReach ⟨Call.workshop, .initial Call.workshop, none, true⟩ [("parts", 1), ("jams", 0)] 2).value =
        true := by
  have hstart : Call.workshop.Reached (.initial Call.workshop) := .start
  refine ⟨hstart, (canReach_iff hstart none true _ 2).mpr ⟨["build", "build"], by decide, _, rfl, ?_⟩⟩
  decide

end Net

end EventNet
