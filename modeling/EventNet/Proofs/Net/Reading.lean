import EventNet.Proofs.Expr.Selecting
import EventNet.Proofs.Net.Complete
import EventNet.Proofs.Net.Effects
import EventNet.Proofs.Number.Sign

/-!
What guards read of a map that an arc has written.

An arc with keys finds its entry by following keys through a map, and a guard by selections.  They agree on
how keys are written, on nil, and on what a missing level or entry counts as, so a guard that reads the
entry of an arc reads a number before a call and, after it, that number with the amount added or taken
away.
-/

namespace EventNet

namespace Call

variable {s : Schema} {m : Marking} {c : Call} {b : Bindings} {st : StateDecl} {a : Arc}

/-- What a guard of the call reads at the path that the keys of an arc select in a state. -/
def reading (c : Call) (s : Schema) (functions : Registry) (b : Bindings) (st : StateDecl) (a : Arc)
    (m : Marking) : Except ExprError Value :=
  (Expr.path st.id a.keys).eval (guardScope functions ((c.on s m).guardContext b))

/-- Where the path is open, a guard reads the entry at its end, or zero. -/
theorem reading_of_open (functions : Registry) {v : Value} {keys : List String}
    (hm : m.Complete s) (hb : Dict.Sorted b) (hst : st ∈ s.states) (hdata : st.isToken = false)
    (hunbound : Dict.get? b st.id = none) (hkeys : Arc.selectedKeys b a.keys = .ok keys)
    (hvalue : m.value? st.id = some v) (hopen : v.Open keys) :
    c.reading s functions b st a m = .ok ((v.lookup? keys).getD .zero) := by
  have huncounted : m.tokens.get? st.id = none := by
    refine hm.tokens.get?_eq_none ?_
    rw [Schema.isTokenState_eq (Schema.state?_of_mem hst), hdata]
  have hstate : Dict.get? ((c.on s m).guardContext b) st.id = some v :=
    (Net.guardContext_of_unbound hb hm.tokens.sorted hm.data.sorted huncounted hunbound).trans hvalue
  refine Expr.eval_path hstate hopen ((Arc.forall₂_of_selectedKeys hkeys).imp ?_)
  intro name k hk
  obtain ⟨key, hbound, htext⟩ := Option.bind_eq_some_iff.mp hk
  show (Dict.get? ((c.on s m).guardContext b) name).bind Value.toKey? = some k
  rw [Net.guardContext_of_bound hb hbound]
  exact htext

/-- The only arc between an action and a state acts on it, as an output if it leads to the state. -/
theorem updated_of_only (hb : c.bindings = some b) (h : (c.run s m).1 = .ok ()) (hst : st ∈ s.states)
    (hdata : st.isToken = false)
    (honly : s.definition.between st.id c.action ++ s.definition.between c.action st.id = [a]) :
    a.updated st b (decide (a.target = st.id)) (m.value? st.id) =
      .ok ((c.after s m).value? st.id) := by
  obtain ⟨haction, hfires⟩ := fires_of_ok h
  have hmoved := hfires.moved
  rw [hb] at hmoved
  obtain ⟨mid, hinputs, houtputs⟩ := Net.value_of_move hst hdata haction hmoved
  rcases List.append_eq_singleton_iff.mp honly with ⟨hnone, hone⟩ | ⟨hone, hnone⟩
  · obtain ⟨-, -, htarget⟩ := Definition.mem_between.mp (hone ▸ List.mem_singleton_self a)
    rw [hnone] at hinputs
    rw [hone, ← Except.ok.inj hinputs] at houtputs
    rw [decide_eq_true htarget]
    exact Arc.updated_of_singleton houtputs
  · obtain ⟨-, -, htarget⟩ := Definition.mem_between.mp (hone ▸ List.mem_singleton_self a)
    have hne : a.target ≠ st.id := by
      rw [htarget]
      rintro hid
      have hstate := Schema.state?_of_mem hst
      rw [← hid, Schema.state?_eq_none_of_action haction] at hstate
      cases hstate
    rw [hnone] at houtputs
    rw [hone] at hinputs
    rw [decide_eq_false hne, ← Except.ok.inj houtputs]
    exact Arc.updated_of_singleton hinputs

/-- **A guard reads what an arc has written.**  Where an action has one arc with a map, and that arc has
keys, a guard that selects from the map by the names of the keys reads a number before a call that
succeeds, nil being zero, and after it that number with the bound amount added, or taken away by an
input.  A nil map, a missing or nil level and a missing or nil entry count as zero. -/
theorem guard_reads_written (hb : c.bindings = some b) (hsorted : Dict.Sorted b) (hm : m.Complete s)
    (hst : st ∈ s.states) (hmap : st.isMap = true) (hunbound : Dict.get? b st.id = none)
    (honly : s.definition.between st.id c.action ++ s.definition.between c.action st.id = [a])
    (hkeys : a.keys ≠ []) (h : (c.run s m).1 = .ok ()) (functions : Registry) :
    (Lexer.IsName st.id → (∀ name ∈ a.keys, Lexer.IsName name) →
      Expr.parse (Expr.pathText st.id a.keys) = .ok (Expr.path st.id a.keys)) ∧
    ∃ keys x amount, Arc.selectedKeys b a.keys = .ok keys ∧
      Dict.get? b a.value = some (.number amount) ∧
      (c.reading s functions b st a m = .ok (.number x) ∨
        c.reading s functions b st a m = .ok .null ∧ x = 0) ∧
      (m.lookup? st.id keys = none ∨ m.lookup? st.id keys = some .null → x = 0) ∧
      c.reading s functions b st a (c.after s m) =
        .ok (.number (if a.target = st.id then x + amount else x - amount)) := by
  have hdata := StateDecl.isToken_of_isMap hmap
  refine ⟨?_, ?_⟩
  · intro hname hnames
    have ha : a ∈ s.definition.arcs := by
      have hmem : a ∈ s.definition.between st.id c.action ++ s.definition.between c.action st.id :=
        honly ▸ List.mem_singleton_self a
      rcases List.mem_append.mp hmem with hin | hout
      · exact (Definition.mem_between.mp hin).1
      · exact (Definition.mem_between.mp hout).1
    obtain ⟨-, -, -, hlength⟩ := Schema.arc_checked ha
    have hdepth : a.keys.length + 2 ≤ 100 := by
      have hlength : a.keys.length ≤ 2 := hlength
      omega
    exact Expr.parse_pathText hname hnames hdepth
  have hisData : s.isDataState st.id = true := by
    rw [Schema.isDataState_eq (Schema.state?_of_mem hst), hdata]
    rfl
  obtain ⟨v, hv⟩ := hm.data.get?_isSome hisData
  have hvalue : m.value? st.id = some v := hv
  have hupdated := updated_of_only hb h hst hdata honly
  rw [hvalue] at hupdated
  obtain ⟨keys, amount, new, hselected, hamount, hnew, hafter⟩ := Arc.updated_keyed hmap hkeys hupdated
  rw [Option.getD_some] at hnew
  obtain ⟨hopen, hopen'⟩ := Value.open_of_addAt hnew
  obtain ⟨hheld, hentry⟩ := Value.lookup?_addAt hnew
  have hbefore := reading_of_open (c := c) functions hm hsorted hst hdata hunbound
    hselected hvalue hopen
  have hreads := reading_of_open (c := c) functions (hm.call c) hsorted hst hdata
    hunbound hselected hafter hopen'
  refine ⟨keys, v.numberAt keys, amount, hselected, hamount, ?_, ?_, ?_⟩
  · rw [hbefore]
    unfold Value.numberAt
    rcases hheld with hnone | hnull | ⟨x, hx⟩
    · rw [hnone]
      exact Or.inl rfl
    · rw [hnull]
      exact Or.inr ⟨rfl, rfl⟩
    · rw [hx]
      exact Or.inl rfl
  · unfold Marking.lookup? Value.numberAt
    rw [hvalue, Option.bind_some]
    rintro (hnone | hnull)
    · rw [hnone]
      rfl
    · rw [hnull]
      rfl
  · rw [hreads, hentry]
    by_cases htarget : a.target = st.id
    · simp [htarget]
    · simp [htarget, Double.sub_eq_add_neg]

/-- Grants of owners to spenders, where ann has not granted anything yet. -/
def grants : StateDecl :=
  { StateDecl.data "grants" "map[string]map[string]number" with
    initial := some (.map [("ann", .null)]) }

/-- A schema in which grants are raised. -/
def granting : Schema :=
  let d : Definition := ⟨"granting", none, [grants, .token "pens" 1], [.plain "grant"],
    [.flow "pens" "grant", ⟨"grant", "grants", 1, ["owner", "spender"], "amount", false⟩], []⟩
  ⟨d, .ofDefinition d, Definition.check_of_isOk (by decide +kernel), rfl⟩

/-- What is bound when ann grants something to bob. -/
def raise : Bindings :=
  [("amount", .number 5), ("owner", .str "ann"), ("spender", .str "bob")]

theorem guard_reads_written_granting :
    let grant : Call := ⟨"grant", some raise, none, true⟩
    let a : Arc := ⟨"grant", "grants", 1, ["owner", "spender"], "amount", false⟩
    (grant.run granting (.initial granting)).1 = .ok () ∧
      grant.reading granting [] raise grants a (grant.after granting (.initial granting)) =
        .ok (.number (0 + 5)) := by
  intro grant a
  have hgrant : (grant.run granting (.initial granting)).1 = .ok () := rfl
  have hsorted : Dict.Sorted raise := by
    unfold Dict.Sorted
    decide
  have hstate : grants ∈ granting.states := List.mem_cons_self
  obtain ⟨-, keys, x, amount, hkeys, hamount, -, hzero, hreads⟩ := guard_reads_written (a := a) rfl
    hsorted (Marking.complete_initial granting) hstate (by decide) rfl rfl (by decide) hgrant []
  obtain rfl : ["ann", "bob"] = keys := Except.ok.inj hkeys
  obtain rfl : 5 = amount := Value.number.inj (Option.some.inj hamount)
  obtain rfl : x = 0 := hzero (Or.inl rfl)
  exact ⟨hgrant, hreads⟩

end Call

end EventNet
