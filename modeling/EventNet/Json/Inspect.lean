import EventNet.Number.Layout
import EventNet.Text.Quoted
import EventNet.Json.Basic

/-!
The form of JSON trees shown for inspection: every tree under the name of its kind.
-/

namespace EventNet.Json

mutual

/-- The form of a tree. -/
def inspect : Json → String
  | .null => "Null"
  | .bool b => if b then "Bool(true)" else "Bool(false)"
  | .int n => "Number(" ++ toString n ++ ")"
  | .double x => "Number(" ++ Layout.json.text x ++ ")"
  | .str s => "String(" ++ Text.quoted s ++ ")"
  | .arr items => "Array [" ++ ", ".intercalate (inspectItems items) ++ "]"
  | .obj fields => "Object \x7b" ++ ", ".intercalate (inspectFields fields) ++ "\x7d"

/-- The forms of items. -/
def inspectItems : List Json → List String
  | [] => []
  | j :: rest => inspect j :: inspectItems rest

/-- The forms of fields. -/
def inspectFields : List (String × Json) → List String
  | [] => []
  | (k, j) :: rest => (Text.quoted k ++ ": " ++ inspect j) :: inspectFields rest

end

end EventNet.Json
