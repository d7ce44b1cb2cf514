import EventNet.Json.Shape
import EventNet.Text.Letters
import EventNet.Value.Json

/-!
Definitions of nets: states, actions, the arcs between them, and constraints.

A token state holds a count, a data state holds a value.  An arc from a state to an action is an
input of the action, one from an action to a state an output.  A definition is plain data; `Schema`
is a definition that has been found well formed.
-/

namespace EventNet

/-- What a state holds. -/
inductive StateKind where
  | token
  | data
  deriving DecidableEq, Repr

/-- A declared state. -/
structure StateDecl where
  id : String
  kind : StateKind
  initial : Option Value
  /-- The declared type of a data state. -/
  type : Option String
  exported : Bool
  deriving Repr

/-- A declared name of a binding. -/
structure BindingDecl where
  name : String
  type : Option String
  deriving DecidableEq, Repr

/-- A declared action. -/
structure Action where
  id : String
  guard : Option String
  bindings : List BindingDecl
  eventType : Option String
  deriving DecidableEq, Repr

/-- A declared arc. -/
structure Arc where
  source : String
  target : String
  weight : Int
  /-- The bindings whose values select an entry of a map. -/
  keys : List String
  /-- The binding whose value is moved. -/
  value : String
  /-- An inhibitor demands that its state is empty and moves nothing. -/
  inhibitor : Bool
  deriving DecidableEq, Repr

/-- A condition on the token counts. -/
structure Constraint where
  id : String
  expr : String
  deriving DecidableEq, Repr

/-- A definition of a net, not necessarily well formed. -/
structure Definition where
  name : String
  version : Option String
  states : List StateDecl
  actions : List Action
  arcs : List Arc
  constraints : List Constraint
  deriving Repr

/-- Drop blanks at the start. -/
def trimStart (cs : List Char) : List Char :=
  cs.dropWhile Text.isBlank

/-- Drop blanks at both ends. -/
def trimBoth (cs : List Char) : List Char :=
  (trimStart (trimStart cs).reverse).reverse

/-- Whether a type is that of maps. -/
def isMapType (type : String) : Bool :=
  ['m', 'a', 'p'].isPrefixOf (trimStart type.toList)

/-- The value a data state starts with when only its type is known. -/
def zeroValue (type : String) : Value :=
  let t := trimBoth type.toList
  if ['m', 'a', 'p'].isPrefixOf t then .emptyMap
  else if ['[', ']'].isPrefixOf t then .list []
  else
    match String.ofList t with
    | "string" => .str ""
    | "bool" | "boolean" => .bool false
    | "int" | "int32" | "int64" | "uint" | "uint32" | "uint64" => .zero
    | "float" | "float32" | "float64" | "number" | "integer" => .zero
    | _ => .null

namespace StateDecl

/-- A token state with a starting count. -/
def token (id : String) (initial : Int) : StateDecl :=
  ⟨id, .token, some (.ofInt initial), none, false⟩

/-- A data state of a type. -/
def data (id type : String) : StateDecl :=
  ⟨id, .data, none, some type, false⟩

/-- Whether a state holds a count. -/
def isToken (s : StateDecl) : Bool :=
  s.kind == .token

/-- Whether a state holds a map. -/
def isMap (s : StateDecl) : Bool :=
  s.kind == .data && (s.type.map isMapType).getD false

/-- The count a state starts with. -/
def initialTokens (s : StateDecl) : Int :=
  match s.initial with
  | some (.number x) => Double.toInt64 x
  | _ => 0

/-- The value a state starts with. -/
def initialValue (s : StateDecl) : Value :=
  match s.initial with
  | some v => v
  | none => zeroValue (s.type.getD "")

end StateDecl

namespace Action

/-- An action without guard. -/
def plain (id : String) : Action :=
  ⟨id, none, [], none⟩

/-- An action with a guard. -/
def guarded (id guard : String) : Action :=
  ⟨id, some guard, [], none⟩

end Action

/-- The binding an arc moves unless it names another. -/
def defaultValueBinding : String := "amount"

namespace Arc

/-- An arc of weight one. -/
def flow (source target : String) : Arc :=
  ⟨source, target, 1, [], defaultValueBinding, false⟩

/-- An inhibitor arc. -/
def inhibits (source target : String) : Arc :=
  { flow source target with inhibitor := true }

end Arc

namespace Definition

/-- The definition of a net that declares nothing. -/
def empty (name : String) : Definition :=
  ⟨name, none, [], [], [], []⟩

/-- Declare one more state. -/
def addState (d : Definition) (s : StateDecl) : Definition :=
  { d with states := d.states ++ [s] }

/-- Declare one more action. -/
def addAction (d : Definition) (a : Action) : Definition :=
  { d with actions := d.actions ++ [a] }

/-- Declare one more arc. -/
def addArc (d : Definition) (a : Arc) : Definition :=
  { d with arcs := d.arcs ++ [a] }

/-- Declare one more constraint. -/
def addConstraint (d : Definition) (c : Constraint) : Definition :=
  { d with constraints := d.constraints ++ [c] }

end Definition

end EventNet
