import EventNet.Net.Format
import EventNet.Proofs.Event.Stored
import EventNet.Proofs.Net.Firing
import EventNet.Proofs.Value.RoundTrip
import Mathlib.Algebra.Module.Submodule.Lattice
import Mathlib.Data.List.Permutation

/-!
Schemas written as JSON and read back.

What is left out on writing is what the reader puts in, so every record comes back, with zero for negative
zero in the starting values.  There is one exception.  A data state can start with nil, which is written
as null, and null is read as no starting value at all: such a state comes back as one that starts with the
zero of its type.  A definition that was read from a text has no such state.  A definition that passed its
check passes it again, and its arcs are found as before, since ids, kinds, counts and weights are those it
had.

Of the text it is assumed, for each definition by itself, that it reads back as the document that was
written (`Json.ReadsBack`).
-/

namespace EventNet

/-! ### Starting values -/

namespace Value

/-- A finite value is written as null only if it is nil. -/
theorem toJson_ne_null {v : Value} (hf : v.Finite) (h : v ≠ .null) : v.toJson ≠ .null := by
  cases v with
  | null => exact absurd rfl h
  | number x =>
      show numberJson x ≠ .null
      have hfinite : x.isFinite = true := hf
      unfold numberJson
      rw [if_pos hfinite]
      split
      · simp
      · simp
  | _ =>
      intro heq
      cases heq

end Value

namespace StateDecl

/-- A state as it is read back: nil is no starting value, and zeros have no sign. -/
def readBack (st : StateDecl) : StateDecl :=
  { st with
    initial := st.initial.bind fun
      | .null => none
      | v => some v.plain }

/-- A state whose starting value has finite numbers and ordered maps. -/
structure Regular (st : StateDecl) : Prop where
  finite : ∀ v, st.initial = some v → v.Finite
  ordered : ∀ v, st.initial = some v → v.Ordered

/-- A state starts with its type's zero, with nil, or with a value that is read back. -/
theorem readBack_cases (st : StateDecl) :
    (st.initial = none ∧ st.readBack.initial = none) ∨
    (st.initial = some .null ∧ st.readBack.initial = none) ∨
    ∃ v, v ≠ .null ∧ st.initial = some v ∧ st.readBack.initial = some v.plain := by
  unfold readBack
  cases st.initial with
  | none => exact Or.inl ⟨rfl, rfl⟩
  | some v =>
      cases v with
      | null => exact Or.inr (Or.inl ⟨rfl, rfl⟩)
      | _ => exact Or.inr (Or.inr ⟨_, by simp, rfl, rfl⟩)

/-- A starting value is read back. -/
theorem nullable_initial {st : StateDecl} (h : st.Regular) (hfits : st.toJson.fits 125 = true)
    {r : Json.Record} (hr : r.find? "initial" = st.initial.map Value.toJson) :
    r.nullable "initial" initialOfJson? = some st.readBack.initial := by
  rcases st.readBack_cases with
    ⟨hinitial, hback⟩ | ⟨hinitial, hback⟩ | ⟨v, hv, hinitial, hback⟩ <;>
    rw [hback] <;> rw [hinitial] at hr
  · exact Json.Record.nullable_none hr _
  · exact Json.Record.nullable_null hr _
  · have hroom : v.toJson.fits initialNesting = true :=
      Json.fits_field hfits (show ("initial", some v.toJson) ∈ _ by simp [hinitial])
    have hread : initialOfJson? v.toJson = some v.plain := by
      unfold initialOfJson?
      rw [if_pos hroom, Value.ofJson?_toJson (h.finite v hinitial) (h.ordered v hinitial)]
    rw [Json.Record.nullable_of_ne hr (Value.toJson_ne_null (h.finite v hinitial) hv), hread]
    rfl

theorem ofJson?_toJson {st : StateDecl} (h : st.Regular) (hfits : st.toJson.fits 125 = true) :
    ofJson? st.toJson = some st.readBack := by
  have hkind : StateKind.ofJson? (.str st.kind.word) = some st.kind := by
    cases st.kind <;> rfl
  unfold ofJson? toJson
  rw [Json.record?_object _ (by simp)]
  simp only [Option.bind_eq_bind, Option.bind_some]
  rw [nullable_initial h hfits rfl, Json.Record.nullable_text rfl]
  show (StateKind.ofJson? (.str st.kind.word)).bind _ = _
  rw [hkind]
  rfl

end StateDecl

/-! ### Records without values -/

theorem BindingDecl.ofJson?_toJson (b : BindingDecl) : ofJson? b.toJson = some b := by
  unfold ofJson? toJson
  rw [Json.record?_object _ (by simp)]
  simp only [Option.bind_eq_bind, Option.bind_some]
  rw [Json.Record.nullable_text rfl]
  rfl

theorem Action.ofJson?_toJson (a : Action) : ofJson? a.toJson = some a := by
  unfold ofJson? toJson
  rw [Json.record?_object _ (by simp)]
  simp only [Option.bind_eq_bind, Option.bind_some]
  rw [Json.Record.nullable_text rfl, Json.Record.nullable_text rfl,
    Json.Record.withDefault_list rfl fun b _ => b.ofJson?_toJson, List.map_id']
  rfl

theorem Arc.ofJson?_toJson {a : Arc} (h : Double.minInt64 ≤ a.weight ∧ a.weight ≤ Double.maxInt64) :
    ofJson? a.toJson = some a := by
  have hkeys : ∀ k ∈ a.keys, Json.str? (.str k) = some k := fun _ _ => rfl
  unfold ofJson? toJson
  rw [Json.record?_object _ (by simp)]
  simp only [Option.bind_eq_bind, Option.bind_some]
  rw [Json.Record.withDefault_list rfl hkeys, List.map_id']
  show (Json.int64? (.int a.weight)).bind _ = _
  rw [Json.int64?_int h]
  rfl

theorem Constraint.ofJson?_toJson (c : Constraint) : ofJson? c.toJson = some c := by
  have hobject : c.toJson = .object [("id", some (.str c.id)), ("expr", some (.str c.expr))] := rfl
  unfold ofJson?
  rw [hobject, Json.record?_object _ (by simp)]
  rfl

/-! ### Definitions -/

namespace Definition

/-- A definition as it is read back. -/
def readBack (d : Definition) : Definition :=
  { d with states := d.states.map StateDecl.readBack }

/-- Starting values of finite numbers and ordered maps, and weights of 64 bits. -/
structure Regular (d : Definition) : Prop where
  states : ∀ st ∈ d.states, st.Regular
  weights : ∀ a ∈ d.arcs, Double.minInt64 ≤ a.weight ∧ a.weight ≤ Double.maxInt64

/-- The states of a definition lie two levels deep. -/
theorem fits_states {d : Definition} (h : d.toJson.fits Json.maxNesting = true) :
    ∀ st ∈ d.states, st.toJson.fits 125 = true := by
  intro st hst
  have harray : (Json.arr (d.states.map StateDecl.toJson)).fits 126 = true :=
    Json.fits_field h (show ("states", some _) ∈ _ by simp)
  exact Json.fits_item harray _ (List.mem_map_of_mem hst)

theorem ofJson?_toJson {d : Definition} (h : d.Regular)
    (hfits : d.toJson.fits Json.maxNesting = true) : ofJson? d.toJson = some d.readBack := by
  have hstates : Json.listOf? StateDecl.ofJson? (.arr (d.states.map StateDecl.toJson)) =
      some (d.states.map StateDecl.readBack) :=
    Json.listOf?_map fun st hst => StateDecl.ofJson?_toJson (h.states st hst) (fits_states hfits st hst)
  have hactions : Json.listOf? Action.ofJson? (.arr (d.actions.map Action.toJson)) =
      some d.actions :=
    (Json.listOf?_map fun a _ => a.ofJson?_toJson).trans (congrArg some (List.map_id' _))
  have harcs : Json.listOf? Arc.ofJson? (.arr (d.arcs.map Arc.toJson)) = some d.arcs :=
    (Json.listOf?_map fun a ha => Arc.ofJson?_toJson (h.weights a ha)).trans
      (congrArg some (List.map_id' _))
  have hconstraints : Json.listOf? Constraint.ofJson? (.arr (d.constraints.map Constraint.toJson)) =
      some d.constraints :=
    (Json.listOf?_map fun c _ => c.ofJson?_toJson).trans (congrArg some (List.map_id' _))
  unfold ofJson?
  rw [toJson, Json.record?_object _ (by simp)]
  simp only [Option.bind_eq_bind, Option.bind_some]
  rw [Json.Record.nullable_text rfl]
  show (Json.listOf? StateDecl.ofJson? (.arr (d.states.map StateDecl.toJson))).bind _ = _
  rw [hstates]
  show (Json.listOf? Action.ofJson? (.arr (d.actions.map Action.toJson))).bind _ = _
  rw [hactions]
  show (Json.listOf? Arc.ofJson? (.arr (d.arcs.map Arc.toJson))).bind _ = _
  rw [harcs]
  show (Json.listOf? Constraint.ofJson? (.arr (d.constraints.map Constraint.toJson))).bind _ = _
  rw [hconstraints]
  rfl

/-- The text of a definition is read as the definition, nil apart. -/
theorem ofText?_text {d : Definition} (h : d.Regular) (hreads : d.toJson.ReadsBack) :
    ofText? d.toJson.text = some d.readBack := by
  obtain ⟨hread, hfits⟩ := Option.filter_eq_some_iff.mp hreads
  unfold ofText?
  rw [hread]
  exact ofJson?_toJson h hfits

end Definition

/-! ### Equality -/

/-- Whether two states are equal, with numbers compared as numbers. -/
def StateDecl.same (a b : StateDecl) : Bool :=
  a.id == b.id && a.kind == b.kind && a.initial == b.initial && a.type == b.type &&
    a.exported == b.exported

/-- Whether two definitions are equal, with numbers compared as numbers. -/
def Definition.same (a b : Definition) : Bool :=
  a.name == b.name && a.version == b.version && a.states.isEqv b.states StateDecl.same &&
    a.actions == b.actions && a.arcs == b.arcs && a.constraints == b.constraints

theorem StateDecl.same_readBack {st : StateDecl} (h : st.Regular) :
    st.readBack.same st = true ↔ st.initial ≠ some .null := by
  have hinitial : st.readBack.same st = (st.readBack.initial == st.initial) := by
    unfold StateDecl.same
    simp [StateDecl.readBack]
  rw [hinitial]
  rcases st.readBack_cases with ⟨hst, hback⟩ | ⟨hst, hback⟩ | ⟨v, hv, hst, hback⟩ <;>
    rw [hback, hst]
  · exact iff_of_true rfl (by simp)
  · exact iff_of_false (by simp) (by simp)
  · refine iff_of_true ?_ (by simpa using hv)
    show (v.plain == v) = true
    exact Value.beq_of_plain_eq ((Value.finite_plain v).mpr (h.finite v hst)) v.plain_plain

/-- A definition is read back as an equal one exactly if no state starts with nil. -/
theorem Definition.same_readBack {d : Definition} (h : d.Regular) :
    d.readBack.same d = true ↔ ∀ st ∈ d.states, st.initial ≠ some .null := by
  have hstates : d.readBack.same d =
      (d.states.map StateDecl.readBack).isEqv d.states StateDecl.same := by
    unfold Definition.same
    simp [Definition.readBack]
  rw [hstates]
  have hregular := h.states
  generalize d.states = states at hregular
  induction states with
  | nil => simp
  | cons st rest ih =>
      obtain ⟨hst, hrest⟩ := List.forall_mem_cons.mp hregular
      rw [List.map_cons, List.isEqv_cons_cons, Bool.and_eq_true, List.forall_mem_cons,
        StateDecl.same_readBack hst]
      exact and_congr_right fun _ => ih hrest

/-! ### The check -/

theorem isInitialCount_plain (v : Value) : isInitialCount v.plain = isInitialCount v := by
  cases v with
  | number x =>
      have hle : 0 ≤ Double.plain x ↔ 0 ≤ x := by
        have hplain := Double.le_plain (x := 0) (y := x)
        rwa [Double.plain_zero] at hplain
      show (decide (0 ≤ Double.plain x) && Double.isIntegral (Double.plain x)) =
        (decide (0 ≤ x) && Double.isIntegral x)
      rw [Double.isIntegral_plain, decide_eq_decide.mpr hle]
  | _ => rfl

namespace Definition

theorem checkStates_readBack {seen : List String} {states : List StateDecl}
    (h : checkStates seen states = .ok ()) :
    checkStates seen (states.map StateDecl.readBack) = .ok () := by
  induction states generalizing seen with
  | nil => rfl
  | cons st rest ih =>
      obtain ⟨hempty, hfresh, hcount, hrest⟩ := checkStates_cons.mp h
      refine checkStates_cons.mpr ⟨hempty, hfresh, fun htoken v hv => ?_, ih hrest⟩
      rcases st.readBack_cases with ⟨-, hback⟩ | ⟨-, hback⟩ | ⟨w, -, hw, hback⟩
      · cases hback.symm.trans hv
      · cases hback.symm.trans hv
      · obtain rfl := Option.some.inj (hback.symm.trans hv)
        rw [isInitialCount_plain]
        exact hcount htoken w hw

theorem find?_readBack (states : List StateDecl) (id : String) :
    (states.map StateDecl.readBack).find? (·.id == id) =
      (states.find? (·.id == id)).map StateDecl.readBack := by
  rw [List.find?_map]
  rfl

theorem arcState?_readBack (states : List StateDecl) (actions : List String) (a : Arc) :
    arcState? (states.map StateDecl.readBack) actions a =
      (arcState? states actions a).map fun (st, intoAction) => (st.readBack, intoAction) := by
  unfold arcState?
  rw [find?_readBack, find?_readBack]
  cases states.find? (·.id == a.source) <;> cases states.find? (·.id == a.target) <;>
    cases actions.contains a.source <;> cases actions.contains a.target <;> rfl

theorem checkArc_readBack (states : List StateDecl) (actions : List String) (a : Arc) :
    checkArc (states.map StateDecl.readBack) actions a = checkArc states actions a := by
  unfold checkArc
  rw [arcState?_readBack]
  cases arcState? states actions a <;> rfl

theorem checkArcs_readBack (states : List StateDecl) (actions : List String) (arcs : List Arc) :
    checkArcs (states.map StateDecl.readBack) actions arcs = checkArcs states actions arcs := by
  induction arcs with
  | nil => rfl
  | cons a rest ih => rw [checkArcs, checkArcs, checkArc_readBack, ih]

theorem stateIds_readBack (d : Definition) : d.readBack.stateIds = d.stateIds := by
  show (d.states.map StateDecl.readBack).map (·.id) = d.states.map (·.id)
  rw [List.map_map]
  rfl

/-- A definition that passed its check passes it when it is read back. -/
theorem check_readBack {d : Definition} (h : d.check = .ok ()) : d.readBack.check = .ok () := by
  have hstates : checkStates [] d.states = .ok () := by
    unfold check at h
    split at h
    · cases h
    · assumption
  have hback : checkStates [] d.readBack.states = .ok () := checkStates_readBack hstates
  have harcs : checkArcs d.readBack.states d.readBack.actionIds d.readBack.arcs =
      checkArcs d.states d.actionIds d.arcs := checkArcs_readBack ..
  unfold check at h ⊢
  rw [hback, stateIds_readBack, harcs]
  rw [hstates] at h
  exact h

end Definition

theorem Index.ofDefinition_readBack (d : Definition) :
    ofDefinition d.readBack = ofDefinition d := by
  unfold ofDefinition
  rw [Definition.stateIds_readBack]
  rfl

theorem Schema.ofDefinition_of_check {d : Definition} (h : d.check = .ok ()) :
    ofDefinition d = .ok ⟨d, .ofDefinition d, h, rfl⟩ := by
  unfold ofDefinition
  split
  · rename_i f hf
    cases hf.symm.trans h
  · rfl


/-! ### Starting markings -/

theorem plain_zeroValue (type : String) : (zeroValue type).plain = zeroValue type := by
  unfold zeroValue
  dsimp only
  split
  · rfl
  split
  · rfl
  split <;> rfl

/-- The value a state starts with stays, unless it starts with nil and its type has another zero. -/
theorem StateDecl.initialValue_readBack (st : StateDecl) :
    st.readBack.initialValue = st.initialValue.plain ↔
      (st.initial = some .null → zeroValue (st.type.getD "") = .null) := by
  have htype : st.readBack.type = st.type := rfl
  unfold initialValue
  rw [htype]
  rcases st.readBack_cases with ⟨hst, hback⟩ | ⟨hst, hback⟩ | ⟨v, hv, hst, hback⟩ <;>
    rw [hback, hst]
  · exact iff_of_true (plain_zeroValue _).symm (by simp)
  · exact ⟨fun heq _ => heq, fun heq => heq rfl⟩
  · exact iff_of_true rfl fun heq => absurd (Option.some.inj heq) hv

theorem StateDecl.initialTokens_readBack (st : StateDecl) :
    st.readBack.initialTokens = st.initialTokens := by
  unfold initialTokens
  rcases st.readBack_cases with ⟨hst, hback⟩ | ⟨hst, hback⟩ | ⟨v, -, hst, hback⟩ <;>
    rw [hback, hst]
  cases v with
  | number x => exact Double.toInt64_plain x
  | _ => rfl

namespace Marking

theorem declare_readBack (m : Marking) {st : StateDecl}
    (h : st.readBack.initialValue = st.initialValue.plain) :
    m.plain.declare st.readBack = (m.declare st).plain := by
  have htoken : st.readBack.isToken = st.isToken := rfl
  have hid : st.readBack.id = st.id := rfl
  unfold declare
  rw [htoken, hid, st.initialTokens_readBack, h]
  split
  · rfl
  · show Marking.mk m.tokens ((m.data.mapValues Value.plain).insert st.id st.initialValue.plain) =
      Marking.mk m.tokens ((m.data.insert st.id st.initialValue).mapValues Value.plain)
    rw [Dict.mapValues_insert]

theorem declarations_readBack {states : List StateDecl}
    (h : ∀ st ∈ states, st.readBack.initialValue = st.initialValue.plain) (m : Marking) :
    (states.map StateDecl.readBack).foldl declare m.plain = (states.foldl declare m).plain := by
  induction states generalizing m with
  | nil => rfl
  | cons st rest ih =>
      obtain ⟨hst, hrest⟩ := List.forall_mem_cons.mp h
      rw [List.map_cons, List.foldl_cons, List.foldl_cons, declare_readBack m hst]
      exact ih hrest _

/-- A schema that was read back starts as before, zeros apart, exactly if the type of every state that
starts with nil has nil for its zero. -/
theorem initial_readBack {s back : Schema} (h : back.definition = s.definition.readBack) :
    initial back = (initial s).plain ↔
      ∀ st ∈ s.states, st.initial = some .null → zeroValue (st.type.getD "") = .null := by
  have hstates : back.states = s.states.map StateDecl.readBack := congrArg Definition.states h
  constructor
  · intro heq st hst hnull
    have hdata : st.isToken ≠ true := by
      intro htoken
      cases s.wellFormed.counts st hst htoken _ hnull
    have hmem : st.readBack ∈ back.states := hstates ▸ List.mem_map_of_mem hst
    have hback : (initial back).value? st.id = some st.readBack.initialValue :=
      value?_initial hmem hdata
    have hplain : (initial s).plain.value? st.id = some st.initialValue.plain := by
      show (Dict.mapValues Value.plain (initial s).data).get? st.id = _
      rw [Dict.get?_mapValues]
      exact congrArg (Option.map Value.plain) (value?_initial hst hdata)
    rw [heq, hplain] at hback
    exact st.initialValue_readBack.mp (Option.some.inj hback).symm hnull
  · intro hzeros
    rw [initial_eq, hstates]
    exact declarations_readBack (fun st hst => st.initialValue_readBack.mpr (hzeros st hst)) .empty

end Marking

/-! ### What is read does not start with nil -/

/-- Only null is read as nil. -/
theorem Value.eq_null_of_ofJson? {j : Json} (h : ofJson? j = some .null) : j = .null := by
  cases j with
  | null => rfl
  | arr items =>
      simp [ofJson?, firstKind?, Json.bool?, Json.number?, Json.str?] at h
  | obj fields =>
      simp [ofJson?, firstKind?, Json.bool?, Json.number?, Json.str?] at h
  | _ => cases h

theorem StateDecl.initial_of_nullable {r : Json.Record} {initial : Option Value}
    (h : r.nullable "initial" initialOfJson? = some initial) : initial ≠ some .null := by
  rintro rfl
  cases hfind : r.find? "initial" with
  | none => cases (Json.Record.nullable_none hfind _).symm.trans h
  | some j =>
      by_cases hj : j = .null
      · cases (Json.Record.nullable_null (hj ▸ hfind) _).symm.trans h
      · rw [Json.Record.nullable_of_ne hfind hj] at h
        obtain ⟨v, hv, hnull⟩ := Option.map_eq_some_iff.mp h
        obtain rfl := Option.some.inj hnull
        unfold initialOfJson? at hv
        split at hv
        · exact hj (Value.eq_null_of_ofJson? hv)
        · cases hv

theorem StateDecl.initial_of_ofJson? {j : Json} {st : StateDecl} (h : ofJson? j = some st) :
    st.initial ≠ some .null := by
  unfold ofJson? at h
  simp only [Option.bind_eq_bind, Option.bind_eq_some_iff] at h
  obtain ⟨r, -, id, -, kind, -, initial, hinitial, type, -, exported, -, hst⟩ := h
  obtain rfl := Option.some.inj hst
  exact initial_of_nullable hinitial

/-- No state of a definition that was read from a text starts with nil. -/
theorem Definition.initial_of_ofText? {text : String} {d : Definition} (h : ofText? text = some d) :
    ∀ st ∈ d.states, st.initial ≠ some .null := by
  obtain ⟨j, -, hj⟩ := Option.bind_eq_some_iff.mp h
  unfold ofJson? at hj
  simp only [Option.bind_eq_bind, Option.bind_eq_some_iff] at hj
  obtain ⟨r, -, name, -, version, -, states, hstates, actions, -, arcs, -, constraints, -, hd⟩ := hj
  obtain rfl := Option.some.inj hd
  unfold Json.Record.withDefault at hstates
  split at hstates
  · obtain rfl : [] = states := Option.some.inj hstates
    exact fun st hst => absurd hst List.not_mem_nil
  · intro st hst
    obtain ⟨item, hitem⟩ := Json.exists_of_listOf? hstates st hst
    exact StateDecl.initial_of_ofJson? hitem

/-! ### Schemas -/

namespace Schema

variable {s back : Schema}

/-- The arcs of an action are found as before. -/
theorem arcs_readBack (h : back.definition = s.definition.readBack) (action : String) :
    back.inputs action = s.inputs action ∧ back.outputs action = s.outputs action := by
  have hindex : back.index = s.index := by
    rw [back.indexed, h, Index.ofDefinition_readBack, ← s.indexed]
  have harcs : back.definition.arcs = s.definition.arcs := by rw [h]; rfl
  unfold inputs outputs arcsAt
  rw [hindex, harcs]
  exact ⟨rfl, rfl⟩

/-- The text of a schema is read as a schema. -/
theorem exists_readBack (s : Schema) (h : s.definition.Regular)
    (hreads : s.definition.toJson.ReadsBack) :
    ∃ back : Schema,
      (Definition.ofText? s.definition.toJson.text).map ofDefinition = some (.ok back) ∧
      back.definition = s.definition.readBack := by
  have hcheck := Definition.check_readBack s.checked
  refine ⟨⟨s.definition.readBack, .ofDefinition s.definition.readBack, hcheck, rfl⟩, ?_, rfl⟩
  rw [Definition.ofText?_text h hreads, Option.map_some, ofDefinition_of_check hcheck]

/-- **A schema is read back from its text, with the arcs of every action as they were.**  Its definition
is an equal one exactly if no state starts with nil, and it starts as before exactly if the type of every
state that starts with nil has nil for its zero.  So a schema that was itself read from a text is read
back as an equal one that starts as before. -/
theorem reads_back_equal_iff (s : Schema) (h : s.definition.Regular)
    (hreads : s.definition.toJson.ReadsBack) :
    ∃ back : Schema,
      (Definition.ofText? s.definition.toJson.text).map ofDefinition = some (.ok back) ∧
      (back.definition.same s.definition = true ↔ ∀ st ∈ s.states, st.initial ≠ some .null) ∧
      (Marking.initial back = (Marking.initial s).plain ↔
        ∀ st ∈ s.states, st.initial = some .null → zeroValue (st.type.getD "") = .null) ∧
      (∀ text, Definition.ofText? text = some s.definition →
        back.definition.same s.definition = true ∧
          Marking.initial back = (Marking.initial s).plain) ∧
      ∀ action, back.inputs action = s.inputs action ∧ back.outputs action = s.outputs action := by
  obtain ⟨back, hread, hdefinition⟩ := s.exists_readBack h hreads
  have hsame : back.definition.same s.definition = true ↔ ∀ st ∈ s.states, st.initial ≠ some .null := by
    rw [hdefinition]
    exact Definition.same_readBack h
  have hstart := Marking.initial_readBack hdefinition
  refine ⟨back, hread, hsame, hstart, fun text htext => ?_, arcs_readBack hdefinition⟩
  have hnil : ∀ st ∈ s.states, st.initial ≠ some .null := Definition.initial_of_ofText? htext
  exact ⟨hsame.mpr hnil, hstart.mpr fun st hst heq => absurd heq (hnil st hst)⟩

end Schema

/-- A number of loans, one from the start. -/
def Definition.loans : Definition where
  name := "loans"
  version := none
  states := [{ StateDecl.data "lent" "int" with initial := some (.number 1) }]
  actions := [.plain "lend"]
  arcs := [.flow "lend" "lent"]
  constraints := []

/-- The schema of the loans. -/
def Schema.loans : Schema :=
  ⟨.loans, .ofDefinition .loans, Definition.check_of_isOk (by decide +kernel), rfl⟩

theorem loans_regular : Schema.loans.definition.Regular where
  states := by
    intro st hst
    obtain rfl := List.mem_singleton.mp hst
    refine ⟨?_, ?_⟩
    · rintro v ⟨⟩
      show Float.isFinite 1 = true
      decide +kernel
    · rintro v ⟨⟩
      exact trivial
  weights := by decide

set_option maxRecDepth 2000 in
theorem loans_readsBack : Schema.loans.definition.toJson.ReadsBack := by
  have hdocument : Schema.loans.definition.toJson =
      .obj [("name", .str "loans"),
        ("states", .arr [.obj [("id", .str "lent"), ("kind", .str "data"),
          ("initial", .int 1), ("type", .str "int"), ("exported", .bool false)]]),
        ("actions", .arr [.obj [("id", .str "lend")]]),
        ("arcs", .arr [.obj [("source", .str "lend"), ("target", .str "lent"), ("weight", .int 1),
          ("value", .str "amount"), ("inhibitor", .bool false)]]),
        ("constraints", .arr [])] := rfl
  rw [hdocument]
  show Json.ofText? _ = _
  cbv

theorem loans_read_back :
    Schema.loans.definition.Regular ∧ Schema.loans.definition.toJson.ReadsBack ∧
    ∃ back : Schema,
      (Definition.ofText? Schema.loans.definition.toJson.text).map Schema.ofDefinition =
        some (.ok back) ∧
      back.definition.same Schema.loans.definition = true ∧
      Marking.initial back = (Marking.initial Schema.loans).plain ∧
      back.outputs "lend" = Definition.loans.arcs := by
  have hstates : ∀ st ∈ Schema.loans.states, st.initial ≠ some .null := by
    intro st hst
    obtain rfl := List.mem_singleton.mp hst
    nofun
  obtain ⟨back, hread, hsame, hstart, -, harcs⟩ :=
    Schema.loans.reads_back_equal_iff loans_regular loans_readsBack
  refine ⟨loans_regular, loans_readsBack, back, hread, hsame.mpr hstates, ?_, ?_⟩
  · exact hstart.mpr fun st hst heq => absurd heq (hstates st hst)
  · exact (harcs "lend").2.trans (by decide +kernel)

/-- Loans that start with nil, by the type of maps. -/
def Definition.unset : Definition where
  name := "loans"
  version := none
  states := [{ StateDecl.data "lent" "map" with initial := some .null }]
  actions := []
  arcs := []
  constraints := []

/-- The schema of these loans. -/
def Schema.unset : Schema :=
  ⟨.unset, .ofDefinition .unset, Definition.check_of_isOk (by decide +kernel), rfl⟩

/-- A state that starts with nil is read back as one that starts with the zero of its type. -/
theorem unset_read_back_empty :
    Schema.unset.definition.Regular ∧ Schema.unset.definition.toJson.ReadsBack ∧
    ∃ back : Schema,
      (Definition.ofText? Schema.unset.definition.toJson.text).map Schema.ofDefinition =
        some (.ok back) ∧
      back.definition.same Schema.unset.definition = false ∧
      (Marking.initial Schema.unset).value? "lent" = some .null ∧
      (Marking.initial back).value? "lent" = some .emptyMap := by
  have hregular : Schema.unset.definition.Regular := by
    refine ⟨fun st hst => ?_, by decide⟩
    obtain rfl := List.mem_singleton.mp hst
    exact ⟨fun v hv => Option.some.inj hv ▸ trivial, fun v hv => Option.some.inj hv ▸ trivial⟩
  have hreads : Schema.unset.definition.toJson.ReadsBack := by
    show Json.ofText? _ = _
    cbv
  obtain ⟨back, hread, hback⟩ := Schema.unset.exists_readBack hregular hreads
  refine ⟨hregular, hreads, back, hread, ?_, rfl, ?_⟩
  · rw [hback]
    decide +kernel
  · have hstates : back.states = [.data "lent" "map"] := congrArg Definition.states hback
    rw [Marking.initial_eq, hstates]
    rfl

end EventNet
