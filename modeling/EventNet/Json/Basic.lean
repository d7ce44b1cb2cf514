import EventNet.Dict
import EventNet.Number.Double

/-!
JSON trees.

A number is an integer when it is written without fraction and exponent and fits 64 bits, and a
double otherwise; the two are told apart because an echoed document keeps the form it was given in.
The fields of an object are in the order of the text and a name may occur twice; `canonical` sorts
them and keeps the last of each name.
-/

namespace EventNet

/-- A JSON document. -/
inductive Json where
  | null
  | bool (b : Bool)
  | int (n : Int)
  | double (x : Float)
  | str (s : String)
  | arr (items : List Json)
  | obj (fields : List (String × Json))
  deriving Inhabited, Repr

namespace Json

mutual

/-- Whether no double is infinite and arrays and objects are nested at most `room` deep. -/
def fits (room : Nat) : Json → Bool
  | .double x => x.isFinite
  | .arr items => match room with
    | 0 => false
    | room + 1 => allFit room items
  | .obj fields => match room with
    | 0 => false
    | room + 1 => allFieldsFit room fields
  | _ => true

/-- `fits` for every item. -/
def allFit (room : Nat) : List Json → Bool
  | [] => true
  | j :: rest => fits room j && allFit room rest

/-- `fits` for every field. -/
def allFieldsFit (room : Nat) : List (String × Json) → Bool
  | [] => true
  | (_, j) :: rest => fits room j && allFieldsFit room rest

end

mutual

/-- Sort the fields of every object and keep the last of each name. -/
def canonical : Json → Json
  | .arr items => .arr (canonicalItems items)
  | .obj fields => .obj (Dict.ofList (canonicalFields fields))
  | j => j

/-- `canonical` for every item. -/
def canonicalItems : List Json → List Json
  | [] => []
  | j :: rest => canonical j :: canonicalItems rest

/-- `canonical` for every field. -/
def canonicalFields : List (String × Json) → List (String × Json)
  | [] => []
  | (k, j) :: rest => (k, canonical j) :: canonicalFields rest

end

/-- The last field of a name. -/
def field? (j : Json) (name : String) : Option Json :=
  match j with
  | .obj fields => (fields.reverse.find? (·.1 == name)).map (·.2)
  | _ => none

/-- The double a number stands for. -/
def number? : Json → Option Float
  | .int n => some (Double.ofInt n)
  | .double x => some x
  | _ => none

/-- An object of the fields that are present. -/
def object (fields : List (String × Option Json)) : Json :=
  .obj (fields.filterMap fun (k, j?) => j?.map (k, ·))

end Json

end EventNet
