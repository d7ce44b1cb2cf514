import EventNet.Value.Basic
import EventNet.Json.Shape

/-!
Values as JSON and back.

A whole number of magnitude below 2^63 is written as an integer, any other finite number as a double,
so that a payload keeps the form its callers gave it, and what is not finite as null.

There are two ways back.  `ofJson` takes every tree as what it is: integers become the nearest double
and the last of two fields of one name stays.  `ofJson?` is a reader among others, for records that have
a value as a field: it knows no tags and tries the kinds of values one after the other.
-/

namespace EventNet.Value

/-- The JSON of a number. -/
def numberJson (x : Float) : Json :=
  if Double.isIntegral x && x.abs < 9223372036854775808 then .int (Double.toInt64 x)
  else if x.isFinite then .double x
  else .null

mutual

/-- The JSON tree of a value. -/
def toJson : Value → Json
  | .null => .null
  | .bool b => .bool b
  | .number x => numberJson x
  | .str s => .str s
  | .list items => .arr (itemsToJson items)
  | .map entries => .obj (entriesToJson entries)

/-- `toJson` for every item. -/
def itemsToJson : List Value → List Json
  | [] => []
  | v :: rest => toJson v :: itemsToJson rest

/-- `toJson` for every entry. -/
def entriesToJson : List (String × Value) → List (String × Json)
  | [] => []
  | (k, v) :: rest => (k, toJson v) :: entriesToJson rest

end

mutual

/-- The value of a JSON tree. -/
def ofJson : Json → Value
  | .null => .null
  | .bool b => .bool b
  | .int n => .ofInt n
  | .double x => .number x
  | .str s => .str s
  | .arr items => .list (itemsOfJson items)
  | .obj fields => .map (Dict.ofList (fieldsOfJson fields))

/-- `ofJson` for every item. -/
def itemsOfJson : List Json → List Value
  | [] => []
  | j :: rest => ofJson j :: itemsOfJson rest

/-- `ofJson` for every field. -/
def fieldsOfJson : List (String × Json) → List (String × Value)
  | [] => []
  | (k, j) :: rest => (k, ofJson j) :: fieldsOfJson rest

end

/-- The first kind of value that a tree is read as, given its items or its fields as far as they are
values. -/
def firstKind? (j : Json) (items? : Option (List Value)) (fields? : Option (List (String × Value))) :
    Option Value :=
  (match j with
    | .null => some null
    | _ => none)
  <|> j.bool?.map bool
  <|> j.number?.map number
  <|> j.str?.map str
  <|> items?.map list
  <|> fields?.map fun fields => map (Dict.ofList fields)

mutual

/-- Read a value. -/
def ofJson? (j : Json) : Option Value :=
  match j with
  | .arr items => firstKind? (.arr items) (itemsOfJson? items) none
  | .obj fields => firstKind? (.obj fields) none (fieldsOfJson? fields)
  | j => firstKind? j none none

/-- `ofJson?` for every item. -/
def itemsOfJson? : List Json → Option (List Value)
  | [] => some []
  | j :: rest => do
    let v ← ofJson? j
    let items ← itemsOfJson? rest
    some (v :: items)

/-- `ofJson?` for every field. -/
def fieldsOfJson? : List (String × Json) → Option (List (String × Value))
  | [] => some []
  | (k, j) :: rest => do
    let v ← ofJson? j
    let fields ← fieldsOfJson? rest
    some ((k, v) :: fields)

end

end EventNet.Value

namespace EventNet.Bindings

/-- The bindings of an object, one for each field; any other tree gives none. -/
def ofJson : Json → Bindings
  | .obj fields => Dict.ofList (Value.fieldsOfJson fields)
  | _ => []

/-- The object of some bindings. -/
def toJson (b : Bindings) : Json :=
  .obj (Value.entriesToJson b)

end EventNet.Bindings
