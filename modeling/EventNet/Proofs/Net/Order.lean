import EventNet.Proofs.Net.Firing
import EventNet.Proofs.Value.RoundTrip

/-!
Firing keeps maps in key order.

Counts and values are written by `Dict.insert`, which keeps the order of a dictionary, and a value
that comes to a data state is a bound value, which is ordered, or a map in which entries were inserted.
So the markings of a net that starts in order stay in order as long as its bindings are in order.
-/

namespace EventNet

theorem Value.ordered_addAt {state : String} {delta : Float} {arrivedBy : Option String}
    {keys : List String} {v new : Value} (hv : v.Ordered)
    (h : addAt state delta arrivedBy keys v = .ok new) : new.Ordered := by
  induction keys generalizing arrivedBy v new with
  | nil =>
      cases v with
      | null => exact Except.ok.inj h ▸ trivial
      | number x => exact Except.ok.inj h ▸ trivial
      | _ => cases h
  | cons k rest ih =>
      have hmap : ∀ entries : Dict Value, (map entries).Ordered →
          addAt state delta arrivedBy (k :: rest) (.map entries) = .ok new → new.Ordered := by
        intro entries ho h
        have hentry : ((entries.get? k).getD (if rest.isEmpty then .zero else .emptyMap)).Ordered := by
          cases he : entries.get? k with
          | some w => exact ho.2.get? he
          | none =>
              cases rest with
              | nil => exact trivial
              | cons l rest => exact ⟨Dict.sorted_nil, trivial⟩
        change ((addAt state delta (some k) rest _).map fun new => map (entries.insert k new)) =
          .ok new at h
        revert h
        cases hr : addAt state delta (some k) rest
            ((entries.get? k).getD (if rest.isEmpty then .zero else .emptyMap)) with
        | error f => exact fun h => by cases h
        | ok w =>
            intro h
            rw [← Except.ok.inj h]
            exact ⟨ho.1.insert k w, ho.2.insert k (ih hentry hr)⟩
      cases v with
      | null => exact hmap [] ⟨Dict.sorted_nil, trivial⟩ h
      | map entries => exact hmap entries hv h
      | _ => cases h

theorem Arc.ordered_transformed {a : Arc} {st : StateDecl} {b : Bindings} {add : Bool}
    {held : Option Value} {new : Value} (hb : Value.OrderedEntries b)
    (hheld : ∀ v, held = some v → v.Ordered)
    (h : a.transformed st b add held = .ok (some new)) : new.Ordered := by
  unfold transformed at h
  split at h
  · cases add with
    | false => cases h
    | true =>
        simp only [if_true] at h
        split at h
        · rename_i v hv
          rw [← Option.some.inj (Except.ok.inj h)]
          exact hb.get? hv
        · cases h
  · split at h
    · cases h
    split at h
    · cases h
    · rename_i keys _ _ amount _
      have hstart : (held.getD .emptyMap).Ordered := by
        cases held with
        | none => exact ⟨Dict.sorted_nil, trivial⟩
        | some v => exact hheld v rfl
      simp only at h
      cases hr : Value.addAt st.id (if add then amount else -amount) none keys
          (held.getD .emptyMap) with
      | error f =>
          rw [hr] at h
          cases h
      | ok w =>
          rw [hr] at h
          rw [← Option.some.inj (Except.ok.inj h)]
          exact Value.ordered_addAt hstart hr

namespace Net

variable {s : Schema} {action : String} {m after : Marking} {b : Bindings}

theorem ordered_addTokens (h : m.Ordered) (state : String) (n : Int) :
    (m.addTokens state n).Ordered :=
  ⟨h.tokens.insert _ _, h.data, h.values⟩

theorem ordered_of_did {a : Arc} {id : String} {moved : Option Int} {add : Bool}
    (hb : Value.OrderedEntries b) (hm : m.Ordered) (h : a.Did s id moved add (some b) m after) :
    after.Ordered := by
  cases h with
  | counted st n => exact ordered_addTokens hm id n
  | changed st b' v hstate hdata hbindings hvalue =>
      obtain rfl := Option.some.inj hbindings
      have hordered : v.Ordered := Arc.ordered_transformed hb (fun w hw => hm.values.get? hw) hvalue
      exact ⟨hm.tokens, hm.data.insert _ _, hm.values.insert _ hordered⟩
  | _ => exact hm

/-- An ordered marking is ordered after an action with ordered bindings. -/
theorem ordered_executeWith {net : Net} (hb : Value.OrderedEntries b) (hm : net.marking.Ordered) :
    (net.executeWith action b).2.marking.Ordered := by
  rcases net.executeWith_cases action b with ⟨act, after, -, -, hfires, heq⟩ | ⟨f, heq⟩
  · rw [heq]
    exact move_invariant (fun a m after hm h => ordered_of_did hb hm (did_of_takeInput h))
      (fun a m after hm h => ordered_of_did hb hm (did_of_giveOutput h)) hm hfires.moved
  · rw [heq]
    exact hm

end Net

/-- A schema starts in order if its values do. -/
theorem Marking.ordered_initial {s : Schema} (h : ∀ st ∈ s.states, st.initialValue.Ordered) :
    (initial s).Ordered := by
  refine initial_induction ⟨Dict.sorted_nil, Dict.sorted_nil, trivial⟩ ?_ ?_
  · exact fun m st _ _ hm => ⟨hm.tokens.insert _ _, hm.data, hm.values⟩
  · exact fun m st hst _ hm =>
      ⟨hm.tokens, hm.data.insert _ _, hm.values.insert _ (h st hst)⟩

end EventNet
