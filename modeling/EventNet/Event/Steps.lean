import EventNet.Event.Basic

/-!
Filters and metadata as lists of steps, each an array of the name of a part and what the part is to be.
-/

namespace EventNet

/-- Something that may be null. -/
def Json.orNull? {α : Type} (decode : Json → Option α) : Json → Option (Option α)
  | .null => some none
  | j => (decode j).map some

namespace EventFilter

/-- Apply one step: bounds replace bounds, types add up. -/
def step? (f : EventFilter) : Json → Option EventFilter
  | .arr [.str "stream", .str s] => some { f with stream := some s }
  | .arr [.str "event_type", .str t] => some { f with types := f.types ++ [t] }
  | .arr [.str "versions", a, b] => do
    let fromVersion ← a.orNull? Json.int64?
    let toVersion ← b.orNull? Json.int64?
    some { f with fromVersion, toVersion }
  | .arr [.str "between", a, b] => do
    let fromTime ← a.orNull? instantOfJson?
    let toTime ← b.orNull? instantOfJson?
    some { f with fromTime, toTime }
  | .arr [.str "limit", n] => n.uint64?.map fun n => { f with limit := some n }
  | _ => none

/-- The filter of some steps. -/
def ofSteps? (steps : List Json) : Option EventFilter :=
  steps.foldlM step? .all

end EventFilter

namespace Metadata

/-- Apply one step. -/
def step? (m : Metadata) : Json → Option Metadata
  | .arr [.str "correlation", .str id] => some { m with correlationId := some id }
  | .arr [.str "causation", .str id] => some { m with causationId := some id }
  | .arr [.str "actor", .str id] => some { m with actorId := some id }
  | .arr [.str "context", context] => some { m with context }
  | _ => none

/-- The metadata of some steps. -/
def ofSteps? (steps : Json) : Option Metadata :=
  match steps with
  | .arr steps => steps.foldlM step? .empty
  | _ => none

end Metadata

end EventNet
