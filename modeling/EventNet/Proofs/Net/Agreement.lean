import EventNet.Proofs.Net.Firing
import EventNet.Proofs.Value.RoundTrip

/-!
Nets that agree up to the signs of zeros.

Two nets agree when they differ at most in the signs of zeros in their data.  Nothing that a call
looks at tells them apart: counts are the same, keys and kinds do not depend on the sign of a zero,
sums of values that agree agree, and a guard is `Extensional` if it does not tell such bindings apart
either.  So a call ends in the same way on both, and leaves nets that agree.
-/

namespace EventNet

/-- Guards do not tell zero from negative zero. -/
def GuardEvaluator.Extensional (e : GuardEvaluator) : Prop :=
  ∀ (source : String) (b : Bindings), e.guard source b.plain = e.guard source b

theorem GuardEvaluator.Extensional.guard_eq {e : GuardEvaluator} (h : e.Extensional)
    (source : String) {b c : Bindings} (hbc : b.plain = c.plain) :
    e.guard source b = e.guard source c := by
  rw [← h source b, hbc, h source c]

/-! ### Entries of maps -/

namespace Value

private theorem mapValues_plain_twice (entries : Dict Value) :
    (entries.mapValues plain).mapValues plain = entries.mapValues plain := by
  rw [← plainEntries_eq, ← plainEntries_eq, plainEntries_plainEntries]

/-- What an entry starts from, `rest` being the keys below it, is the same in a plain map. -/
private theorem entry_plain (entries : Dict Value) (k : String) (rest : List String) :
    ((entries.mapValues plain).get? k).getD (if rest.isEmpty then .zero else .emptyMap) =
      ((entries.get? k).getD (if rest.isEmpty then .zero else .emptyMap)).plain := by
  rw [Dict.get?_mapValues]
  cases entries.get? k with
  | some v => rfl
  | none =>
      cases rest with
      | nil => exact congrArg number Double.plain_zero.symm
      | cons l rest => rfl

private theorem map_plain_insert (d : Dict Value) (k : String) (r : Except BindingFault Value) :
    (r.map fun new => map (d.insert k new)).map plain =
      (r.map plain).map fun new => map ((d.mapValues plain).insert k new) := by
  cases r with
  | error f => rfl
  | ok new =>
      refine congrArg Except.ok ?_
      rw [plain_map, Dict.mapValues_insert]

theorem addAt_plain (state : String) (delta : Float) (arrivedBy : Option String)
    (keys : List String) (v : Value) :
    (addAt state (Double.plain delta) arrivedBy keys v.plain).map plain =
      (addAt state delta arrivedBy keys v).map plain := by
  induction keys generalizing arrivedBy v with
  | nil =>
      cases v with
      | null =>
          refine congrArg (fun x => Except.ok (number x)) ?_
          rw [Double.plain_add 0 delta, Double.plain_zero]
      | number x =>
          exact congrArg (fun x => Except.ok (number x)) (Double.plain_add x delta).symm
      | _ => rfl
  | cons k rest ih =>
      -- below a map the entry of the key changes, and the entry agrees
      have hmap : ∀ entries : Dict Value,
          (addAt state (Double.plain delta) arrivedBy (k :: rest)
            (.map (entries.mapValues plain))).map plain =
            (addAt state delta arrivedBy (k :: rest) (.map entries)).map plain := by
        intro entries
        show ((addAt state (Double.plain delta) (some k) rest _).map _).map plain =
          ((addAt state delta (some k) rest _).map _).map plain
        rw [map_plain_insert, map_plain_insert, mapValues_plain_twice, entry_plain, ih]
      cases v with
      | null => exact hmap []
      | map entries =>
          rw [plain_map]
          exact hmap entries
      | _ => rfl

theorem addAt_congr (state : String) {d e : Float} (arrivedBy : Option String)
    (keys : List String) {v w : Value} (hd : Double.plain d = Double.plain e)
    (hv : v.plain = w.plain) :
    (addAt state d arrivedBy keys v).map plain = (addAt state e arrivedBy keys w).map plain := by
  rw [← addAt_plain state d, ← addAt_plain state e, hd, hv]

end Value

namespace Bindings

variable {b c : Bindings}

theorem map_get?_congr (h : b.plain = c.plain) (name : String) :
    (Dict.get? b name).map Value.plain = (Dict.get? c name).map Value.plain := by
  rw [← get?_plain, ← get?_plain, h]

/-- A question that the plain form answers as the value does is answered alike. -/
theorem bind_get?_congr {α : Type} (h : b.plain = c.plain) (name : String)
    {f : Value → Option α} (hf : ∀ v, f v.plain = f v) :
    (Dict.get? b name).bind f = (Dict.get? c name).bind f := by
  have hplain : ∀ o : Option Value, o.bind f = (o.map Value.plain).bind f := by
    intro o
    cases o with
    | none => rfl
    | some v => exact (hf v).symm
  rw [hplain, map_get?_congr h, ← hplain]

theorem number?_congr (h : b.plain = c.plain) (name : String) :
    ((Dict.get? b name).bind Value.number?).map Double.plain =
      ((Dict.get? c name).bind Value.number?).map Double.plain := by
  have hplain : ∀ o : Option Value,
      (o.bind Value.number?).map Double.plain = (o.map Value.plain).bind Value.number? := by
    intro o
    cases o with
    | none => rfl
    | some v => exact (Value.number?_plain v).symm
  rw [hplain, map_get?_congr h, ← hplain]

end Bindings

/-- Two options with one image are both empty, or both full with one image. -/
private theorem map_eq_map_cases {α β : Type} {f : α → β} {o p : Option α}
    (h : o.map f = p.map f) :
    o = none ∧ p = none ∨ ∃ x y, o = some x ∧ p = some y ∧ f x = f y := by
  cases o <;> cases p <;> simp_all

/-! ### Arcs -/

namespace Arc

variable {b c : Bindings}

theorem selectedKeys_congr (h : b.plain = c.plain) (names : List String) :
    selectedKeys b names = selectedKeys c names := by
  induction names with
  | nil => rfl
  | cons name rest ih =>
      unfold selectedKeys
      rw [Bindings.bind_get?_congr h name Value.toKey?_plain, ih]

/-- What an arc makes of a value agrees with what it makes of a value that agrees. -/
theorem transformed_congr (a : Arc) (st : StateDecl) (h : b.plain = c.plain) (add : Bool)
    {held kept : Option Value} (hv : held.map Value.plain = kept.map Value.plain) :
    (a.transformed st b add held).map (Option.map Value.plain) =
      (a.transformed st c add kept).map (Option.map Value.plain) := by
  unfold transformed
  by_cases hwhole : (!st.isMap || a.keys.isEmpty) = true
  · rw [if_pos hwhole, if_pos hwhole]
    cases add with
    | false => rfl
    | true =>
        simp only [if_true]
        rcases map_eq_map_cases (Bindings.map_get?_congr h a.value) with
          ⟨hb, hc⟩ | ⟨v, w, hb, hc, hvw⟩
        · rw [hb, hc]
        · rw [hb, hc]
          exact congrArg (fun v => Except.ok (some v)) hvw
  rw [if_neg hwhole, if_neg hwhole, selectedKeys_congr h]
  cases selectedKeys c a.keys with
  | error f => rfl
  | ok keys =>
      have hheld : (held.getD .emptyMap).plain = (kept.getD .emptyMap).plain := by
        rcases map_eq_map_cases hv with ⟨rfl, rfl⟩ | ⟨v, w, rfl, rfl, hvw⟩
        · rfl
        · exact hvw
      rcases map_eq_map_cases (Bindings.number?_congr h a.value) with
        ⟨hb, hc⟩ | ⟨x, y, hb, hc, hxy⟩
      · simp only [hb, hc]
      · have hdelta : Double.plain (if add then x else -x) = Double.plain (if add then y else -y) := by
          cases add with
          | true => exact hxy
          | false =>
              show Double.plain (-x) = Double.plain (-y)
              rw [Double.plain_neg x, hxy, ← Double.plain_neg y]
        have hadd := Value.addAt_congr st.id none keys hdelta hheld
        have hsome : ∀ r : Except BindingFault Value,
            (r.map some).map (Option.map Value.plain) = (r.map Value.plain).map some := by
          intro r
          cases r <;> rfl
        simp only [hb, hc]
        rw [hsome, hsome, hadd]

end Arc

namespace Net

/-! ### Runs of updates -/

/-- Two runs that end alike and leave markings that agree. -/
structure AgreeOn (r t : Except Fault Unit × Marking) : Prop where
  outcome : r.1 = t.1
  marking : r.2.plain = t.2.plain

variable {s : Schema} {action : String} {m n : Marking} {b c : Bindings}

private theorem tokens_eq (h : m.plain = n.plain) : m.tokens = n.tokens :=
  (congrArg Marking.tokens h : m.plain.tokens = n.plain.tokens)

private theorem data_eq (h : m.plain = n.plain) :
    m.data.mapValues Value.plain = n.data.mapValues Value.plain :=
  (congrArg Marking.data h : m.plain.data = n.plain.data)

private theorem plain_ext (htokens : m.tokens = n.tokens)
    (hdata : m.data.mapValues Value.plain = n.data.mapValues Value.plain) : m.plain = n.plain := by
  show (⟨m.tokens, m.data.mapValues Value.plain⟩ : Marking) = ⟨n.tokens, _⟩
  rw [htokens, hdata]

theorem count_congr (h : m.plain = n.plain) (state : String) : m.count state = n.count state := by
  unfold Marking.count
  rw [tokens_eq h]

theorem addTokens_congr (h : m.plain = n.plain) (state : String) (k : Int) :
    (m.addTokens state k).plain = (n.addTokens state k).plain := by
  have hdata := data_eq h
  refine plain_ext ?_ hdata
  unfold Marking.addTokens
  rw [count_congr h, tokens_eq h]

theorem setValue_congr (h : m.plain = n.plain) (state : String) {v w : Value}
    (hv : v.plain = w.plain) : (m.setValue state v).plain = (n.setValue state w).plain := by
  have htokens := tokens_eq h
  refine plain_ext htokens ?_
  show (m.data.insert state v).mapValues _ = (n.data.insert state w).mapValues _
  rw [Dict.mapValues_insert, Dict.mapValues_insert, data_eq h, hv]

theorem value?_congr (h : m.plain = n.plain) (state : String) :
    (m.value? state).map Value.plain = (n.value? state).map Value.plain := by
  unfold Marking.value?
  rw [← Dict.get?_mapValues, ← Dict.get?_mapValues, data_eq h]

theorem transform_agree (h : m.plain = n.plain) (hb : b.plain = c.plain) (st : StateDecl) (a : Arc)
    (add : Bool) :
    AgreeOn ((transform action st a b add).run m) ((transform action st a c add).run n) := by
  have hnew := a.transformed_congr st hb add (value?_congr h st.id)
  rw [run_transform, run_transform]
  revert hnew
  cases a.transformed st b add (m.value? st.id) <;> cases a.transformed st c add (n.value? st.id) <;>
    intro hnew
  · cases hnew
    exact ⟨rfl, h⟩
  · cases hnew
  · cases hnew
  · rcases map_eq_map_cases (Except.ok.inj hnew) with ⟨rfl, rfl⟩ | ⟨v, w, rfl, rfl, hvw⟩
    · exact ⟨rfl, h⟩
    · exact ⟨rfl, setValue_congr h st.id hvw⟩

theorem takeInput_agree (h : m.plain = n.plain) (hb : b.plain = c.plain) (a : Arc) :
    AgreeOn ((takeInput s action (some b) a).run m) ((takeInput s action (some c) a).run n) := by
  rw [run_takeInput, run_takeInput]
  cases s.state? a.source with
  | none => exact ⟨rfl, h⟩
  | some st =>
      simp only
      by_cases ht : st.isToken = true
      · rw [if_pos ht, if_pos ht]
        refine ⟨rfl, ?_⟩
        by_cases hi : a.inhibitor = true
        · rw [if_pos hi, if_pos hi]
          exact h
        · rw [if_neg hi, if_neg hi]
          exact addTokens_congr h st.id (-a.weight)
      · rw [if_neg ht, if_neg ht]
        exact transform_agree h hb st a false

theorem giveOutput_agree (h : m.plain = n.plain) (hb : b.plain = c.plain) (a : Arc) :
    AgreeOn ((giveOutput s action (some b) a).run m) ((giveOutput s action (some c) a).run n) := by
  rw [run_giveOutput, run_giveOutput]
  cases s.state? a.target with
  | none => exact ⟨rfl, h⟩
  | some st =>
      simp only
      by_cases ht : st.isToken = true
      · rw [if_pos ht, if_pos ht]
        exact ⟨rfl, addTokens_congr h st.id a.weight⟩
      · rw [if_neg ht, if_neg ht]
        exact transform_agree h hb st a true

theorem AgreeOn.of_lockstep {r t : Except Fault Unit × Marking}
    (h : Lockstep (fun m n => m.plain = n.plain) r t) : AgreeOn r t :=
  ⟨h.outcome, h.marking⟩

theorem move_agree (h : m.plain = n.plain) (hb : b.plain = c.plain) :
    AgreeOn ((move s action (some b)).run m) ((move s action (some c)).run n) := by
  refine .of_lockstep (move_lockstep (fun a m n h => ?_) (fun a m n h => ?_) h)
  · have hagree : AgreeOn ((takeInput s action (some b) a).run m) _ := takeInput_agree h hb a
    exact ⟨hagree.outcome, hagree.marking⟩
  · have hagree : AgreeOn ((giveOutput s action (some b) a).run m) _ := giveOutput_agree h hb a
    exact ⟨hagree.outcome, hagree.marking⟩

/-! ### Calls -/

/-- Nets that differ at most in the signs of zeros. -/
structure Agree (net other : Net) : Prop where
  schema : net.schema = other.schema
  evaluator : net.evaluator = other.evaluator
  checks : net.checksConstraints = other.checksConstraints
  marking : net.marking.plain = other.marking.plain

variable {net other : Net}

theorem Agree.enabled (h : Agree net other) (action : String) :
    net.enabled action = other.enabled action := by
  have hallows : ∀ a, net.allows a = other.allows a := by
    intro a
    unfold allows
    rw [h.schema, count_congr h.marking]
  unfold Net.enabled
  rw [h.schema, funext hallows]

theorem Agree.violations (h : Agree net other) : net.violations = other.violations := by
  unfold Net.violations
  rw [h.evaluator, h.schema, tokens_eq h.marking]

/-- Calls that end alike and leave nets that agree. -/
structure AgreeOnCall (r t : Except Fault Unit × Net) : Prop where
  outcome : r.1 = t.1
  net : Agree r.2 t.2

theorem fire_agree (h : Agree net other) (hb : b.plain = c.plain) (act : Action) :
    AgreeOnCall (net.fire act (some b)) (other.fire act (some c)) := by
  have henabled := h.enabled act.id
  obtain ⟨s, m, ev, on⟩ := net
  obtain ⟨s', n, ev', on'⟩ := other
  obtain ⟨rfl, rfl, rfl, hmark⟩ := h
  have hmove : AgreeOn ((move s act.id (some b)).run m) ((move s act.id (some c)).run n) :=
    move_agree hmark hb
  unfold fire
  rw [henabled]
  by_cases he : (!(Net.mk s n ev on).enabled act.id) = true
  · rw [if_pos he, if_pos he]
    exact ⟨rfl, rfl, rfl, rfl, hmark⟩
  rw [if_neg he, if_neg he]
  revert hmove
  simp only
  rcases (move s act.id (some b)).run m with ⟨r, m'⟩
  rcases (move s act.id (some c)).run n with ⟨r', n'⟩
  rintro ⟨hr, hm⟩
  obtain rfl : r = r' := hr
  cases r with
  | error f => exact ⟨rfl, rfl, rfl, rfl, hmark⟩
  | ok u =>
      have hafter : Agree ⟨s, m', ev, on⟩ ⟨s, n', ev, on⟩ := ⟨rfl, rfl, rfl, hm⟩
      simp only [hafter.violations]
      cases (if on then (Net.mk s n' ev on).violations.head? else none) with
      | some v => exact ⟨rfl, rfl, rfl, rfl, hmark⟩
      | none => exact ⟨rfl, hafter⟩

theorem guardContext_congr (h : Agree net other) (hb : b.plain = c.plain) :
    (net.guardContext b).plain = (other.guardContext c).plain := by
  have hdata := data_eq h.marking
  have htokens := tokens_eq h.marking
  unfold guardContext Bindings.plain
  rw [Dict.mapValues_insertAll, Dict.mapValues_insertAll, Dict.mapValues_insertAll,
    Dict.mapValues_insertAll, Dict.mapValues_insertAll, Dict.mapValues_insertAll, hdata, htokens]
  exact congrArg _ hb

theorem guardFault?_congr (h : Agree net other) (hb : b.plain = c.plain)
    (hev : ∀ e, other.evaluator = some e → e.Extensional) (act : Action) :
    net.guardFault? act b = other.guardFault? act c := by
  have hcontext := guardContext_congr h hb
  unfold guardFault?
  rw [h.evaluator]
  cases act.guard with
  | none => rfl
  | some guard =>
      cases he : other.evaluator with
      | none => rfl
      | some e => simp only [(hev e he).guard_eq guard hcontext]

/-- **Nets that agree execute an action alike and agree afterwards.** -/
theorem executeWith_agree (h : Agree net other) (hb : b.plain = c.plain)
    (hev : ∀ e, other.evaluator = some e → e.Extensional) (action : String) :
    AgreeOnCall (net.executeWith action b) (other.executeWith action c) := by
  unfold executeWith
  rw [h.schema]
  cases other.schema.action? action with
  | none => exact ⟨rfl, h⟩
  | some act =>
      simp only [guardFault?_congr h hb hev]
      cases other.guardFault? act c with
      | some f => exact ⟨rfl, h⟩
      | none => exact fire_agree h hb act

/-! ### Constraints not checked -/

/-- An action that is executed while constraints are checked is executed alike while they are not,
and all of them hold afterwards. -/
theorem executeWith_unchecked {after : Marking}
    (h : net.executeWith action b = (.ok (), { net with marking := after })) :
    { net with checksConstraints := false }.executeWith action b =
        (.ok (), { net with marking := after, checksConstraints := false }) ∧
      (net.checksConstraints = true → { net with marking := after }.violations = []) := by
  rcases net.executeWith_cases action b with ⟨act, after', hact, hguard, hfires, heq⟩ | ⟨f, heq⟩
  · rw [heq] at h
    obtain rfl : after' = after := congrArg (·.2.marking) h
    have hunchecked : Net.Fires { net with checksConstraints := false } action (some b) after' :=
      ⟨hfires.enabled, hfires.moved, fun hc => absurd hc Bool.false_ne_true⟩
    exact ⟨executeWith_of_fires hact hguard hunchecked, hfires.sound⟩
  · rw [heq] at h
    exact absurd (congrArg Prod.fst h) (by simp)

end Net

end EventNet
