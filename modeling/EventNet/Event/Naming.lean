import EventNet.Event.Tense
import EventNet.Net.Schema
import EventNet.Telemetry.Signal
import EventNet.Text.Case

/-!
Which event type an action writes, and which action an event type belongs to.

An action is named by words joined by `_` or `-`, an event type by capitalised words without a joint,
the last of them in the past tense: `approve_order` writes `ApproveOrdered`.  A schema can name the
event type of an action itself.  `EventTypes` is the table for one schema; where two actions share an
event type it belongs to the first of them.
-/

namespace EventNet

namespace Naming

/-- The words between joints, without empty ones; `current` is the word being read, reversed. -/
def wordsFrom (current : List Char) : List Char → List (List Char)
  | [] => if current.isEmpty then [] else [current.reverse]
  | c :: rest =>
    if c == '_' || c == '-' then
      if current.isEmpty then wordsFrom [] rest else current.reverse :: wordsFrom [] rest
    else wordsFrom (c :: current) rest

/-- The words of an action's name in lower case. -/
def words (action : String) : List (List Char) :=
  (wordsFrom [] action.toList).map (Text.lowerFrom [])

/-- A word with its first character in upper case. -/
def capitalize : List Char → List Char
  | [] => []
  | c :: rest => Text.upperChar c ++ rest

/-- Capitalised words, the last one in the past tense. -/
def joinPast : List (List Char) → List Char
  | [] => []
  | [w] => capitalize (Tense.past w)
  | w :: rest => capitalize w ++ joinPast rest

/-- The event type of an action. -/
def eventType (action : String) : String :=
  String.ofList (joinPast (words action))

/-- Words that start at capitals, in lower case; `current` is the word being read. -/
def humpsFrom (current : List Char) : List Char → List (List Char)
  | [] => if current.isEmpty then [] else [current]
  | c :: rest =>
    if Text.isUppercase c && !current.isEmpty then
      current :: humpsFrom (Text.lowerChar c) rest
    else humpsFrom (current ++ Text.lowerChar c) rest

/-- Words joined by `_`, the last one in the present tense. -/
def joinPresent : List (List Char) → List Char
  | [] => []
  | [w] => Tense.present w
  | w :: rest => w ++ '_' :: joinPresent rest

/-- The action an event type suggests. -/
def action (eventType : String) : String :=
  String.ofList (joinPresent (humpsFrom [] eventType.toList))

end Naming

/-- The event types of a schema. -/
structure EventTypes where
  byAction : Dict String
  byEvent : Dict String

namespace EventTypes

/-- The event type an action declares, or else the one its name gives. -/
def declared (a : Action) : String :=
  a.eventType.getD (Naming.eventType a.id)

/-- Enter an action.  An event type that is taken stays with the action that has it. -/
def enter (t : EventTypes) (a : Action) : Traced EventTypes :=
  let type := declared a
  let byAction := t.byAction.insert a.id type
  if t.byEvent.contains type then
    ⟨⟨byAction, t.byEvent⟩, [.log .warn "event type already mapped, keeping first action"]⟩
  else .silent ⟨byAction, t.byEvent.insert type a.id⟩

/-- Enter several actions. -/
def enterAll (t : EventTypes) : List Action → Traced EventTypes
  | [] => .silent t
  | a :: rest => (t.enter a).andThen fun t => enterAll t rest

/-- The table of a schema. -/
def ofSchema (s : Schema) : Traced EventTypes :=
  enterAll ⟨[], []⟩ s.actions

/-- The event type of an action. -/
def eventType (t : EventTypes) (action : String) : String :=
  (t.byAction.get? action).getD (Naming.eventType action)

/-- The action of an event type. -/
def action (t : EventTypes) (eventType : String) : String :=
  (t.byEvent.get? eventType).getD (Naming.action eventType)

end EventTypes

end EventNet
