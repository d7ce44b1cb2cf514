import EventNet.Machine.Basic

/-!
Machines whose user state is a table of documents by name, described by data.

A guard compares the integer of a field with a bound.  A handler counts events in a field, adds up an
amount of their payloads, or keeps the last payload; a handler can also fail, always or the first time
it runs on a machine, which shows what a failure leaves behind.
-/

namespace EventNet

/-- Documents by name, and which handlers have failed already. -/
structure Fields where
  values : Dict Json
  failed : List Nat
  deriving Repr

namespace Fields

/-- No fields. -/
def empty : Fields :=
  ⟨[], []⟩

/-- The integer of a field, zero for anything else. -/
def int (u : Fields) (field : String) : Int :=
  ((u.values.get? field).bind Json.int64?).getD 0

/-- Put a document into a field. -/
def set (u : Fields) (field : String) (j : Json) : Fields :=
  { u with values := u.values.insert field j }

/-- Add to the integer of a field. -/
def add (u : Fields) (field : String) (n : Int) : Fields :=
  u.set field (.int (u.int field + n))

/-- The form shown for inspection, given that of a document. -/
def inspect (inspectJson : Json → String) (u : Fields) : String :=
  Marking.inspectEntries (u.values.mapValues inspectJson)

/-- A payload read as integers by name. -/
def integers? (data : Json) : Option (Dict Int) :=
  data.dictOf? Json.int64?

/-- Which part of a payload is added up. -/
def amountField : String := "amount"

/-- The handler of a kind for a field; `position` tells the handlers of a machine apart. -/
def handler? (position : Nat) (kind field : String) : Option (Handler Fields) :=
  match kind with
  | "incr" => some fun u _ => (.ok (), u.add field 1)
  | "add" => some fun u e =>
    match integers? e.data with
    | none => (.error (.unreadable .json), u)
    | some d => (.ok (), u.add field ((d.get? amountField).getD 0))
  | "last" => some fun u e => (.ok (), u.set field e.data)
  | "fail" => some fun u _ => (.error (.internal "handler failed"), u)
  | "fail_once" => some fun u _ =>
    if u.failed.contains position then (.ok (), u.add field 1)
    else (.error (.internal "handler failed once"), { u with failed := position :: u.failed })
  | _ => none

/-- The guard of a field, a comparison and a bound. -/
def guard? : Json → Option (Option (Fields → Bool))
  | .null => some none
  | .arr [.str field, .str op, n] => do
    let n ← n.int64?
    some (some fun u => if op == "<" then u.int field < n else n ≤ u.int field)
  | _ => none

end Fields

namespace Transition

/-- Read a transition. -/
def ofJson? (j : Json) : Option (Transition Fields) := do
  let r ← j.record? ["id", "event", "inputs", "outputs", "inhibitors", "guard"]
  let counts := Json.dictOf? Json.int64?
  let id ← r.required "id" Json.str?
  let eventType ← r.required "event" Json.str?
  let inputs ← r.nullable "inputs" counts
  let outputs ← r.nullable "outputs" counts
  let inhibitors ← r.nullable "inhibitors" (Json.listOf? Json.str?)
  let guard ← r.withDefault "guard" none Fields.guard?
  some ⟨id, eventType, inputs.getD [], outputs.getD [], inhibitors.getD [], guard⟩

/-- Write a transition without its guard. -/
def toJson {σ : Type} (t : Transition σ) : Json :=
  let counts (d : Dict Int) : Json := .obj (d.mapValues .int)
  .arr [.str t.id, .str t.eventType, counts t.inputs, counts t.outputs,
    .arr (t.inhibitors.map .str)]

end Transition

namespace Machine

/-- Add a place: its name and its tokens. -/
def withPlace? (m : Machine Fields) : Json → Option (Machine Fields)
  | .arr [.str name, n] => n.int64?.map (m.place name)
  | _ => none

/-- Set a handler: its event type, kind and field. -/
def withHandler? (m : Machine Fields) (entry : Json × Nat) : Option (Machine Fields) := do
  let r ← entry.1.record? ["event", "kind", "field"]
  let eventType ← r.required "event" Json.str?
  let kind ← r.required "kind" Json.str?
  let field ← r.nullable "field" Json.str?
  let handler ← Fields.handler? entry.2 kind (field.getD "n")
  some (m.on eventType handler)

/-- Read the machine of a stream: its places, transitions and handlers, each in order. -/
def ofParts? (stream : String) (places transitions handlers : List Json) :
    Option (Machine Fields) := do
  let m ← places.foldlM withPlace? (.new stream .empty)
  let m ← transitions.foldlM (fun m t => (Transition.ofJson? t).map m.transition) m
  handlers.zipIdx.foldlM withHandler? m

end Machine

end EventNet
