import EventNet.Value.Json
import EventNet.Json.Writer
import EventNet.Text.Quoted

/-!
Texts of values: the key a scalar selects in a map, the form shown to readers and the form shown for
inspection.

A number without fraction is first cut to a signed 64 bit integer, so a key or a text never has a
trailing fraction and huge numbers share the greatest key.
-/

namespace EventNet.Value

/-- The text of a number: an integer when it has no fraction. -/
def numberText (x : Float) : String :=
  if Double.isIntegral x then toString (Double.toInt64 x) else Layout.plain.text x

/-- The text of a truth value. -/
def boolText (b : Bool) : String :=
  if b then "true" else "false"

/-- The map key a scalar selects; lists, maps and nil select none. -/
def toKey? : Value → Option String
  | .str s => some s
  | .number x => some (numberText x)
  | .bool b => some (boolText b)
  | _ => none

/-- The form shown to readers: scalars in the notation of expressions, lists and maps as JSON. -/
def text : Value → String
  | .null => "nil"
  | .bool b => boolText b
  | .number x => numberText x
  | .str s => Text.quoted s
  | v => v.toJson.text

mutual

/-- The form shown for inspection: every value under the name of its kind. -/
def inspect : Value → String
  | .null => "Null"
  | .bool b => "Bool(" ++ boolText b ++ ")"
  | .number x => "Number(" ++ Layout.inspection.text x ++ ")"
  | .str s => "String(" ++ Text.quoted s ++ ")"
  | .list items => "List([" ++ inspectItems items ++ "])"
  | .map entries => "Map(\x7b" ++ inspectEntries entries ++ "\x7d)"

/-- `inspect` for every item, with commas between. -/
def inspectItems : List Value → String
  | [] => ""
  | [v] => inspect v
  | v :: rest => inspect v ++ ", " ++ inspectItems rest

/-- `inspect` for every entry, with commas between. -/
def inspectEntries : List (String × Value) → String
  | [] => ""
  | [(k, v)] => Text.quoted k ++ ": " ++ inspect v
  | (k, v) :: rest => Text.quoted k ++ ": " ++ inspect v ++ ", " ++ inspectEntries rest

end

/-- The encoding of a number, or that it is none. -/
def bitsText (x : Float) : String :=
  if x.isNaN then "nan" else Double.hexBits x

/-- Everything there is to tell about a value, by name. -/
def outline (v : Value) : List (String × Json) :=
  let key := match v.toKey? with
    | some k => .str k
    | none => .null
  [("type", .str v.kind.name), ("json", v.toJson), ("display", .str v.text), ("key", key)] ++
    (v.number?.map fun x => ("bits", .str (bitsText x))).toList

end EventNet.Value
