import EventNet.Proofs.Net.Balance
import EventNet.Proofs.Net.Effects

/-!
The frame of a firing.

A call with bindings changes data only where its arcs point.  A state without arcs is left.  A state that
holds no map is only read by inputs, and has in the end what its last output was bound to.  A map is
changed along the paths that its arcs select, entry by entry: an entry beside all of them, at whatever
level, is neither lost nor made nor changed, although missing and nil levels on the way become maps.
`Call.data_frame` says all three.
-/

namespace EventNet

/-- A path that an arc neither leads through nor leads to. -/
def Arc.Apart (b : Bindings) (a : Arc) (path : List String) : Prop :=
  ∀ keys, Arc.selectedKeys b a.keys = .ok keys → ¬ path <+: keys ∧ ¬ keys <+: path

namespace Arc

variable {st : StateDecl} {a : Arc} {b : Bindings} {add : Bool} {held after : Option Value}
  {arcs : List Arc}

/-- An arc leaves the entries beside its path.  A state without a value counts as an empty map, which has
no entries either. -/
theorem lookup?_updated (hmap : st.isMap = true) (hkeys : a.keys ≠ []) {path : List String}
    (hapart : a.Apart b path) (h : a.updated st b add held = .ok after) :
    after.bind (Value.lookup? path) = held.bind (Value.lookup? path) := by
  obtain ⟨keys, amount, new, hselected, -, hnew, rfl⟩ := updated_keyed hmap hkeys h
  obtain ⟨hpath, hbeyond⟩ := hapart keys hselected
  have hframe := Value.lookup?_addAt_of_apart hnew hpath hbeyond
  cases held with
  | some v => exact hframe
  | none =>
      cases path with
      | nil => exact absurd List.nil_prefix hpath
      | cons k rest => exact hframe

theorem lookup?_updatedAll (hmap : st.isMap = true) {path : List String}
    (hkeys : ∀ a ∈ arcs, a.keys ≠ []) (hapart : ∀ a ∈ arcs, a.Apart b path)
    (h : updatedAll st b add arcs held = .ok after) :
    after.bind (Value.lookup? path) = held.bind (Value.lookup? path) := by
  refine updatedAll_invariant
    (P := fun v => v.bind (Value.lookup? path) = held.bind (Value.lookup? path)) ?_ rfl h
  intro a ha before mid hbefore hmid
  exact (lookup?_updated hmap (hkeys a ha) (hapart a ha) hmid).trans hbefore

/-- Where nothing has failed, every arc of a map has selected a path. -/
theorem selectedKeys_of_updatedAll (hmap : st.isMap = true) (hkeys : a.keys ≠ [])
    (h : updatedAll st b add arcs held = .ok after) (ha : a ∈ arcs) :
    ∃ keys, selectedKeys b a.keys = .ok keys := by
  obtain ⟨before, mid, hmid⟩ := updated_of_updatedAll h ha
  obtain ⟨keys, -, -, hselected, -⟩ := updated_keyed hmap hkeys hmid
  exact ⟨keys, hselected⟩

theorem updatedAll_inputs (hplain : st.isMap = false)
    (h : updatedAll st b false arcs held = .ok after) : after = held := by
  refine updatedAll_invariant (P := fun v => v = held) ?_ rfl h
  intro a _ before mid hbefore hmid
  exact (updated_input hplain hmid).trans hbefore

end Arc

namespace Call

variable {s : Schema} {m : Marking} {c : Call} {st : StateDecl}

/-- **The frame of a firing.**  A call with bindings that succeeds leaves a data state that its action has
no arcs with.  It leaves a state that holds no map if its action has no arc to it, and otherwise gives it
the value that is bound for the last of these arcs.  In a map whose arcs all have keys every arc selects
a path, and the entries beside these paths stay as they are, present or absent. -/
theorem data_frame {b : Bindings} (hb : c.bindings = some b) (h : (c.run s m).1 = .ok ())
    (hst : st ∈ s.states) (hdata : st.isToken = false) :
    let inputs := s.definition.between st.id c.action
    let outputs := s.definition.between c.action st.id
    (inputs = [] → outputs = [] → (c.after s m).value? st.id = m.value? st.id) ∧
    (st.isMap = false →
      (outputs = [] → (c.after s m).value? st.id = m.value? st.id) ∧
      ∀ a, outputs.getLast? = some a →
        ∃ v, Dict.get? b a.value = some v ∧ (c.after s m).value? st.id = some v) ∧
    (st.isMap = true → (∀ a ∈ inputs ++ outputs, a.keys ≠ []) →
      (∀ a ∈ inputs ++ outputs, ∃ keys, Arc.selectedKeys b a.keys = .ok keys) ∧
      ∀ path, (∀ a ∈ inputs ++ outputs, a.Apart b path) →
        (c.after s m).lookup? st.id path = m.lookup? st.id path) := by
  intro inputs outputs
  obtain ⟨haction, hfires⟩ := fires_of_ok h
  have hmoved := hfires.moved
  rw [hb] at hmoved
  obtain ⟨mid, hinputs, houtputs⟩ := Net.value_of_move hst hdata haction hmoved
  refine ⟨?_, ?_, ?_⟩
  · intro hnone hnone'
    rw [show s.definition.between st.id c.action = [] from hnone] at hinputs
    rw [show s.definition.between c.action st.id = [] from hnone'] at houtputs
    have hsame : m.value? st.id = mid := Except.ok.inj hinputs
    rw [hsame]
    exact (Except.ok.inj houtputs).symm
  · intro hplain
    obtain rfl := Arc.updatedAll_inputs hplain hinputs
    refine ⟨?_, ?_⟩
    · intro hnone
      rw [show s.definition.between c.action st.id = [] from hnone] at houtputs
      exact (Except.ok.inj houtputs).symm
    · intro a ha
      obtain ⟨before, hlast⟩ := Arc.updatedAll_last houtputs ha
      exact Arc.updated_output hplain hlast
  · intro hmap hkeys
    refine ⟨?_, ?_⟩
    · intro a ha
      rcases List.mem_append.mp ha with hin | hout
      · exact Arc.selectedKeys_of_updatedAll hmap (hkeys a ha) hinputs hin
      · exact Arc.selectedKeys_of_updatedAll hmap (hkeys a ha) houtputs hout
    · intro path hapart
      have hafter := Arc.lookup?_updatedAll hmap
        (fun a ha => hkeys a (List.mem_append_right inputs ha))
        (fun a ha => hapart a (List.mem_append_right inputs ha)) houtputs
      have hbefore := Arc.lookup?_updatedAll hmap
        (fun a ha => hkeys a (List.mem_append_left outputs ha))
        (fun a ha => hapart a (List.mem_append_left outputs ha)) hinputs
      exact hafter.trans hbefore

/-- A library that notes who holds which title, how many copies are left, who came last, and fines. -/
def library : Schema :=
  let d : Definition := ⟨"library", none,
    [.data "loans" "map[string]map[string]number", .data "shelf" "map[string]number",
      .data "last" "string", .data "fines" "map[string]number"], [.plain "lend"],
    [⟨"lend", "loans", 1, ["reader", "title"], "copies", false⟩,
      ⟨"shelf", "lend", 1, ["title"], "copies", false⟩,
      ⟨"lend", "last", 1, [], "reader", false⟩], []⟩
  ⟨d, .ofDefinition d, Definition.check_of_isOk (by decide +kernel), rfl⟩

/-- What is bound when ann borrows one copy of a title. -/
def borrowing : Bindings :=
  [("copies", .number 1), ("reader", .str "ann"), ("title", .str "faust")]

theorem data_frame_library :
    let lend : Call := ⟨"lend", some borrowing, none, true⟩
    let m : Marking := ⟨[], [("fines", .map [("bob", .number 2)]),
      ("loans", .map [("ann", .map [("emma", .number 1)])]), ("shelf", .map [("emma", .number 3)])]⟩
    (lend.run library m).1 = .ok () ∧
      (lend.after library m).value? "fines" = some (.map [("bob", .number 2)]) ∧
      (lend.after library m).value? "last" = some (.str "ann") ∧
      (lend.after library m).lookup? "loans" ["ann", "emma"] = some (.number 1) ∧
      (lend.after library m).lookup? "loans" ["bob"] = none := by
  intro lend m
  have hlend : (lend.run library m).1 = .ok () := rfl
  have hstates : library.states = [.data "loans" "map[string]map[string]number",
      .data "shelf" "map[string]number", .data "last" "string", .data "fines" "map[string]number"] := rfl
  have hstate : StateDecl.data "fines" "map[string]number" ∈ library.states := by simp [hstates]
  obtain ⟨hfines, -, -⟩ := data_frame rfl hlend hstate rfl
  have hstate : StateDecl.data "last" "string" ∈ library.states := by simp [hstates]
  obtain ⟨-, hlast, -⟩ := data_frame rfl hlend hstate rfl
  have hstate : StateDecl.data "loans" "map[string]map[string]number" ∈ library.states := by
    simp [hstates]
  obtain ⟨-, -, hloans⟩ := data_frame rfl hlend hstate rfl
  obtain ⟨-, hentries⟩ := hloans (by decide) (by decide)
  obtain ⟨v, hv, hafter⟩ := (hlast (by decide)).2 _ rfl
  have hv' : v = .str "ann" := Option.some.inj hv.symm
  have hapart : ∀ path : List String, ¬ path <+: ["ann", "faust"] → ¬ ["ann", "faust"] <+: path →
      ∀ a ∈ library.definition.between "loans" "lend" ++ library.definition.between "lend" "loans",
        a.Apart borrowing path := by
    intro path hpath hbeyond a ha keys hkeys
    obtain rfl := List.mem_singleton.mp ha
    obtain rfl : ["ann", "faust"] = keys := Except.ok.inj hkeys
    exact ⟨hpath, hbeyond⟩
  refine ⟨hlend, hfines rfl rfl, hv' ▸ hafter, ?_, ?_⟩
  · exact hentries ["ann", "emma"] (hapart _ (by decide) (by decide))
  · exact hentries ["bob"] (hapart _ (by decide) (by decide))

end Call

end EventNet
