import EventNet.Json.Shape
import EventNet.Net.Schema
import EventNet.Value.Text

/-!
Markings: the live state of a net.

A marking holds a count for each token state and a value for each data state.  An absent count reads
as zero.  `tokenKey` writes the counts in the order of their states; markings of the same states have
equal keys exactly when they have equal counts.
-/

namespace EventNet

/-- The counts of token states and the values of data states. -/
structure Marking where
  tokens : Dict Int
  data : Dict Value
  deriving Repr

namespace Marking

/-- A marking without entries. -/
def empty : Marking :=
  ⟨[], []⟩

/-- The marking a schema starts with. -/
def initial (s : Schema) : Marking :=
  s.states.foldl (fun m state =>
    if state.isToken then { m with tokens := m.tokens.insert state.id state.initialTokens }
    else { m with data := m.data.insert state.id state.initialValue }) empty

/-- The count of a state. -/
def count (m : Marking) (state : String) : Int :=
  (m.tokens.get? state).getD 0

/-- The value of a data state. -/
def value? (m : Marking) (state : String) : Option Value :=
  m.data.get? state

/-- One count in a token key. -/
def keyPart (entry : String × Int) : String :=
  entry.1 ++ "=" ++ toString entry.2

/-- All counts as one text. -/
def tokenKey (m : Marking) : String :=
  ",".intercalate (m.tokens.map keyPart)

/-- Whether every state named by a target has the count given there. -/
def matchesTokens (m : Marking) (target : Dict Int) : Bool :=
  target.all fun (state, n) => m.count state == n

/-- Write a marking. -/
def toJson (m : Marking) : Json :=
  .obj [("data", .obj (Value.entriesToJson m.data)),
        ("tokens", .obj (m.tokens.map fun (k, n) => (k, .int n)))]

/-- Read a marking. -/
def ofJson? (j : Json) : Option Marking := do
  let r ← j.record? ["tokens", "data"]
  let tokens ← r.required "tokens" (Json.dictOf? Json.int64?)
  let data ← r.required "data" (Json.dictOf? Value.ofJson?)
  some ⟨tokens, data⟩

/-- Entries between braces. -/
def inspectEntries (entries : List (String × String)) : String :=
  "\x7b" ++ ", ".intercalate (entries.map fun (k, v) => Text.quoted k ++ ": " ++ v) ++ "\x7d"

/-- The form shown for inspection. -/
def inspect (m : Marking) : String :=
  "Snapshot \x7b tokens: " ++ inspectEntries (m.tokens.map fun (k, n) => (k, toString n)) ++
    ", data: " ++ inspectEntries (m.data.map fun (k, v) => (k, v.inspect)) ++ " \x7d"

end Marking

end EventNet
