import EventNet.Event.Basic
import EventNet.Fault.Basic
import EventNet.Net.Marking
import EventNet.Number.Word

/-!
State machines: places with tokens, transitions between them and a user state.

A transition fires in two halves.  `fire` checks that it may and answers the event, without changing
anything; `apply` moves the tokens of the event's transition and runs the handler of the event's type
on the user state.  Between the halves the event can be recorded.  When `apply` fails, places and
version stay as they were.  Tokens and versions are numbers of 64 bits; nobody looks whether their sums
fit, and what does not wraps around.
-/

namespace EventNet

/-- A transition of a machine with user state in `σ`. -/
structure Transition (σ : Type) where
  id : String
  eventType : String
  inputs : Dict Int
  outputs : Dict Int
  /-- Places that have to be empty. -/
  inhibitors : List String
  guard : Option (σ → Bool)

/-- What an event does to the user state. -/
abbrev Handler (σ : Type) := σ → Event → Except Fault Unit × σ

/-- A machine with user state in `σ`. -/
structure Machine (σ : Type) where
  stream : String
  places : Dict Int
  transitions : List (Transition σ)
  /-- Positions of transitions by their id. -/
  byId : Dict Nat
  /-- Positions of transitions by their event type. -/
  byEvent : Dict Nat
  /-- Handlers by event type. -/
  handlers : Dict (Handler σ)
  state : σ
  /-- The version of the last event applied. -/
  version : Int

namespace Machine

variable {σ : Type}

/-- A machine without places and transitions. -/
def new (stream : String) (state : σ) : Machine σ :=
  ⟨stream, [], [], [], [], [], state, noStream⟩

/-- Give a place its tokens. -/
def place (m : Machine σ) (name : String) (tokens : Int) : Machine σ :=
  { m with places := m.places.insert name tokens }

/-- Enter a transition at a position of the list. -/
def enter (m : Machine σ) (t : Transition σ) (position : Nat) : Machine σ :=
  { m with
    byId := m.byId.insert t.id position
    byEvent := m.byEvent.insert t.eventType position }

/-- Take the event type of the transition at a position out of the index. -/
def dropEvent (m : Machine σ) (position : Nat) : Machine σ :=
  match m.transitions[position]? with
  | some old => { m with byEvent := m.byEvent.erase old.eventType }
  | none => m

/-- Add a transition, in place of the one of the same id. -/
def transition (m : Machine σ) (t : Transition σ) : Machine σ :=
  match m.byId.get? t.id with
  | some i =>
    let m := m.dropEvent i
    { m with transitions := m.transitions.set i t }.enter t i
  | none => { m with transitions := m.transitions ++ [t] }.enter t m.transitions.length

/-- Set the handler of an event type. -/
def on (m : Machine σ) (eventType : String) (handler : Handler σ) : Machine σ :=
  { m with handlers := m.handlers.insert eventType handler }

/-- The tokens of a place, none if it is not declared. -/
def tokens (m : Machine σ) (place : String) : Int :=
  (m.places.get? place).getD 0

/-- The transition of an id. -/
def find? (m : Machine σ) (id : String) : Option (Transition σ) :=
  (m.byId.get? id).bind (m.transitions[·]?)

/-- The transition of an event type. -/
def ofEvent? (m : Machine σ) (eventType : String) : Option (Transition σ) :=
  (m.byEvent.get? eventType).bind (m.transitions[·]?)

/-- Whether the inputs have their tokens and the inhibitors none. -/
def allows (m : Machine σ) (t : Transition σ) : Bool :=
  t.inputs.all (fun (place, n) => n ≤ m.tokens place) &&
    t.inhibitors.all fun place => m.tokens place == 0

/-- Whether the guard of a transition holds. -/
def guardHolds (m : Machine σ) (t : Transition σ) : Bool :=
  match t.guard with
  | some guard => guard m.state
  | none => true

/-- Whether a transition may fire. -/
def canFire (m : Machine σ) (id : String) : Bool :=
  match m.find? id with
  | some t => m.allows t && m.guardHolds t
  | none => false

/-- Whether a transition may fire; asking for one that does not exist is reported. -/
def tracedCanFire (m : Machine σ) (id : String) : Traced Bool :=
  ⟨m.canFire id, if (m.find? id).isSome then [] else (Fault.actionNotFound id).signals⟩

/-- The transitions that may fire, in the order of their adding. -/
def enabled (m : Machine σ) : List String :=
  (m.transitions.filter fun t => m.canFire t.id).map (·.id)

/-- What is told about a guard that does not hold. -/
def guardText : String := "state predicate"

/-- The event of a transition that may fire.  Nothing is changed. -/
def fire (m : Machine σ) (stamp : Stamp) (id : String) (data : Json) : Except Fault Event :=
  match m.find? id with
  | none => .error (.actionNotFound id)
  | some t =>
    if !m.allows t then .error (.actionNotEnabled id)
    else if !m.guardHolds t then .error (.guardNotSatisfied id guardText)
    else .ok { Event.new stamp m.stream t.eventType data with
      version := Word.wrap (m.version + 1) }

/-- Take tokens from places; none where a place lacks them. -/
def take (places : Dict Int) : List (String × Int) → Option (Dict Int)
  | [] => some places
  | (place, n) :: rest =>
    let tokens := (places.get? place).getD 0
    if tokens < n then none else take (places.insert place (Word.wrap (tokens - n))) rest

/-- Add tokens to places. -/
def give (places : Dict Int) : List (String × Int) → Dict Int
  | [] => places
  | (place, n) :: rest =>
    give (places.insert place (Word.wrap ((places.get? place).getD 0 + n))) rest

/-- The places after a transition; none where an input lacks its tokens. -/
def moved (places : Dict Int) (t : Transition σ) : Option (Dict Int) :=
  (take places t.inputs).map fun places => give places t.outputs

/-- Run the handler of an event, if there is one. -/
def handle (m : Machine σ) (e : Event) : Except Fault Unit × σ :=
  match m.handlers.get? e.type with
  | some handler => handler m.state e
  | none => (.ok (), m.state)

/-- Run the handler of an event and, if it succeeds, go on to places and to the event's version. -/
def finish (m : Machine σ) (e : Event) (places : Dict Int) : Except Fault Unit × Machine σ :=
  match m.handle e with
  | (.error f, state) => (.error f, { m with state })
  | (.ok (), state) => (.ok (), { m with state, places, version := e.version })

/-- Apply an event: move the tokens of its transition and run its handler. -/
def apply (m : Machine σ) (e : Event) : Except Fault Unit × Machine σ :=
  match m.ofEvent? e.type with
  | none =>
    if m.handlers.contains e.type then m.finish e m.places
    else (.error (.eventUnknown e.type), m)
  | some t =>
    match moved m.places t with
    | none => (.error (.eventNotEnabled t.id e.type), m)
    | some places => m.finish e places

end Machine

/-- The form of a transition shown for inspection. -/
def Transition.inspect {σ : Type} (t : Transition σ) : String :=
  let counts (d : Dict Int) : String :=
    Marking.inspectEntries (d.map fun (k, n) => (k, toString n))
  "Transition \x7b id: " ++ Text.quoted t.id ++ ", event_type: " ++ Text.quoted t.eventType ++
    ", inputs: " ++ counts t.inputs ++ ", outputs: " ++ counts t.outputs ++ ", inhibitors: " ++
    Text.quotedList t.inhibitors ++ ", guarded: " ++ Value.boolText t.guard.isSome ++ " \x7d"

/-- The form of transitions shown for inspection. -/
def Transition.inspectAll {σ : Type} (ts : List (Transition σ)) : String :=
  "[" ++ ", ".intercalate (ts.map Transition.inspect) ++ "]"

/-- The form of a machine shown for inspection, given the form of its user state. -/
def Machine.inspect {σ : Type} (m : Machine σ) (inspectState : σ → String) : String :=
  "StateMachine \x7b stream_id: " ++ Text.quoted m.stream ++ ", places: " ++
    Marking.inspectEntries (m.places.map fun (k, n) => (k, toString n)) ++ ", transitions: " ++
    Transition.inspectAll m.transitions ++ ", state: " ++ inspectState m.state ++ ", version: " ++
    toString m.version ++ " \x7d"

end EventNet
