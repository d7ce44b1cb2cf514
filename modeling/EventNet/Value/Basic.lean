import EventNet.Dict
import EventNet.Number.Double

/-!
Dynamic values: what expressions compute with and what data states hold.

Numbers are doubles.  A map is a dictionary in key order.  `beq` is equality of the contents, where
numbers are compared as doubles, so that zero equals negative zero and what is not a number differs
from itself.
-/

namespace EventNet

/-- The kinds of values. -/
inductive Kind where
  | nil
  | bool
  | number
  | string
  | list
  | map
  deriving DecidableEq, Repr

/-- The name of a kind in messages. -/
def Kind.name : Kind → String
  | .nil => "nil"
  | .bool => "bool"
  | .number => "number"
  | .string => "string"
  | .list => "list"
  | .map => "map"

/-- A dynamically typed value. -/
inductive Value where
  | null
  | bool (b : Bool)
  | number (x : Float)
  | str (s : String)
  | list (items : List Value)
  | map (entries : List (String × Value))
  deriving Inhabited, Repr

/-- Named values: what an expression can refer to. -/
abbrev Bindings := Dict Value

namespace Value

/-- The number zero. -/
def zero : Value :=
  .number 0

/-- The map without entries. -/
def emptyMap : Value :=
  .map []

/-- The number of an integer. -/
def ofInt (n : Int) : Value :=
  .number (Double.ofInt n)

/-- The kind of a value. -/
def kind : Value → Kind
  | .null => .nil
  | .bool _ => .bool
  | .number _ => .number
  | .str _ => .string
  | .list _ => .list
  | .map _ => .map

/-- The number, if it is one. -/
def number? : Value → Option Float
  | .number x => some x
  | _ => none

/-- The truth value, if it is one. -/
def bool? : Value → Option Bool
  | .bool b => some b
  | _ => none

/-- The text, if it is one. -/
def str? : Value → Option String
  | .str s => some s
  | _ => none

/-- The entries, if it is a map. -/
def map? : Value → Option (Dict Value)
  | .map entries => some entries
  | _ => none

mutual

/-- Equality of contents, with numbers compared as doubles. -/
def beq : Value → Value → Bool
  | .null, .null => true
  | .bool a, .bool b => a == b
  | .number x, .number y => x == y
  | .str s, .str t => s == t
  | .list xs, .list ys => beqItems xs ys
  | .map xs, .map ys => beqEntries xs ys
  | _, _ => false

/-- `beq` item by item. -/
def beqItems : List Value → List Value → Bool
  | [], [] => true
  | x :: xs, y :: ys => beq x y && beqItems xs ys
  | _, _ => false

/-- `beq` entry by entry. -/
def beqEntries : List (String × Value) → List (String × Value) → Bool
  | [], [] => true
  | (k, x) :: xs, (l, y) :: ys => k == l && beq x y && beqEntries xs ys
  | _, _ => false

end

instance : BEq Value := ⟨beq⟩

end Value

end EventNet
