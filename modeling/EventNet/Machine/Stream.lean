import EventNet.Machine.Basic
import EventNet.Store.Batch
import EventNet.Store.Program

/-!
Machines and their streams.

Loading applies the events that a machine has not seen.  Committing appends a batch for the version
of the machine and then applies it.  Both stop at the first event that cannot be applied; the events
before it are applied, and what was appended stays.
-/

namespace EventNet.Machine

variable {σ : Type}

/-- Apply events in order, up to the first that fails. -/
def applyAll (m : Machine σ) : List Event → Except Fault Unit × Machine σ
  | [] => (.ok (), m)
  | e :: rest =>
    match m.apply e with
    | (.error f, m) => (.error f, m)
    | (.ok (), m) => applyAll m rest

/-- `applyAll` with the signals of its fault. -/
def tracedApplyAll (m : Machine σ) (events : List Event) : Program (Except Fault Unit × Machine σ) :=
  let (r, m) := m.applyAll events
  Program.ofTraced ((Fault.traced r).andThen fun r => .silent (r, m))

/-- Apply the events that the machine has not seen; answers their number. -/
def load (m : Machine σ) : Program (Except Fault Nat × Machine σ) := do
  match ← Program.read m.stream (m.version + 1) with
  | .error f => pure (.error f, m)
  | .ok events =>
    match ← m.tracedApplyAll events with
    | (.error f, m) => pure (.error f, m)
    | (.ok (), m) =>
      Program.log .debug "aggregate loaded"
      pure (.ok events.length, m)

/-- Append events for the version of the machine and apply them; answers the new version. -/
def commit (m : Machine σ) (events : List Event) : Program (Except Fault Int × Machine σ) :=
  match Batch.stamp m.stream m.version events with
  | .error f => Program.ofTraced (f.refuse m)
  | .ok committed => do
    match ← Program.append m.stream m.version committed with
    | .error f => pure (.error f, m)
    | .ok version =>
      match ← m.tracedApplyAll committed with
      | (.error f, m) => pure (.error f, m)
      | (.ok (), m) => pure (.ok version, m)

end EventNet.Machine
