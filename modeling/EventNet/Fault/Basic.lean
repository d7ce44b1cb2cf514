import EventNet.Fault.Report
import EventNet.Value.Text

/-!
Why an operation of the library fails, by cause.

A fault carries what the cause is about and no wording; `Fault.report` writes the report of a cause.
-/

namespace EventNet

/-- Why a definition is not well formed. -/
inductive SchemaFault where
  | emptyStateId
  | duplicateState (id : String)
  | invalidInitial (id : String) (initial : Value)
  | emptyActionId
  | stateAndAction (id : String)
  | duplicateAction (id : String)
  | guard (action : String) (error : ExprError)
  /-- An arc that does not join a declared state and a declared action. -/
  | looseArc (source target : String)
  | arcWeight (source target : String) (weight : Int)
  | arcKeys (source target : String) (count limit : Nat)
  | inhibitor (source target : String)
  | duplicateConstraint (id : String)
  | constraint (id : String) (error : ExprError)
  deriving Repr

/-- The wording of a fault in a definition. -/
def SchemaFault.message : SchemaFault → String
  | .emptyStateId => "state id must not be empty"
  | .duplicateState id => "duplicate state '" ++ id ++ "'"
  | .invalidInitial id initial =>
    "token state '" ++ id ++ "' has invalid initial count " ++ initial.text
  | .emptyActionId => "action id must not be empty"
  | .stateAndAction id => "'" ++ id ++ "' is declared as both a state and an action"
  | .duplicateAction id => "duplicate action '" ++ id ++ "'"
  | .guard action error => "guard of action '" ++ action ++ "' does not compile: " ++ error.message
  | .looseArc source target =>
    "arc " ++ source ++ " -> " ++ target ++ " must connect a declared state and a declared action"
  | .arcWeight source target weight =>
    "arc " ++ source ++ " -> " ++ target ++ " has weight " ++ toString weight ++
      ", expected at least 1"
  | .arcKeys source target count limit =>
    "arc " ++ source ++ " -> " ++ target ++ " has " ++ toString count ++ " keys, at most " ++
      toString limit ++ " are supported"
  | .inhibitor source target =>
    "inhibitor arc " ++ source ++ " -> " ++ target ++
      " must run from a token state into an action"
  | .duplicateConstraint id => "duplicate constraint '" ++ id ++ "'"
  | .constraint id error => "constraint '" ++ id ++ "' does not compile: " ++ error.message

/-- Why the arcs of an action cannot use some bindings. -/
inductive BindingFault where
  | missing (name : String)
  | key (name : String)
  | amount (name : String)
  /-- The state holds something other than a map. -/
  | notMap (state : String)
  /-- An entry on the way holds something other than a map. -/
  | notInnerMap (state key : String)
  /-- The selected entry holds something other than a number. -/
  | notNumber (state : String) (got : Kind)
  deriving DecidableEq, Repr

/-- The wording of a fault in bindings. -/
def BindingFault.message : BindingFault → String
  | .missing name => "missing binding '" ++ name ++ "'"
  | .key name => "key binding '" ++ name ++ "' is missing or not a scalar"
  | .amount name => "value binding '" ++ name ++ "' is missing or not a number"
  | .notMap state => "state '" ++ state ++ "' does not hold a map"
  | .notInnerMap state inner => "'" ++ state ++ "[" ++ inner ++ "]' is not a map"
  | .notNumber state got =>
    "'" ++ state ++ "' holds a " ++ got.name ++ " where a number was expected"

/-- What in stored data could not be read. -/
inductive Unreadable where
  | json
  | eventId
  | timestamp
  deriving DecidableEq, Repr

/-- The wording of unreadable data. -/
def Unreadable.message : Unreadable → String
  | .json => "Failed to process JSON data"
  | .eventId => "Corrupt event id"
  | .timestamp => "Corrupt timestamp"

/-- Why an operation fails. -/
inductive Fault where
  | actionNotFound (action : String)
  | actionNotEnabled (action : String)
  | guardNotSatisfied (action guard : String)
  | guardEvaluation (action : String) (error : ExprError)
  | constraintViolated (constraint expr : String)
  | constraintEvaluation (constraint : String) (error : ExprError)
  | invalidBinding (action : String) (cause : BindingFault)
  | invalidSchema (cause : SchemaFault)
  /-- A recorded event whose transition lacks tokens. -/
  | eventNotEnabled (transition eventType : String)
  /-- An event type that no transition and no handler is for. -/
  | eventUnknown (eventType : String)
  | conflict (stream : String) (expected actual : Int)
  | storeClosed
  | unreadable (what : Unreadable)
  /-- The database refuses a call. -/
  | database
  /-- The database cannot be reached. -/
  | unreachable
  /-- The database cannot be opened. -/
  | cannotOpen
  | settings
  | unreadableSettings
  | internal (reason : String)
  deriving Repr

namespace Fault

/-- What is told about a fault. -/
def report : Fault → Report
  | actionNotFound action => .actionNotFound action
  | actionNotEnabled action => .actionNotEnabled action
  | guardNotSatisfied action guard => .guardNotSatisfied action guard
  | guardEvaluation action error => .guardEvaluation action error
  | constraintViolated constraint expr => .constraintViolated constraint expr
  | constraintEvaluation constraint error => .constraintEvaluation constraint error.message
  | invalidBinding action cause => .invalidBinding action cause.message
  | invalidSchema cause => .schemaValidation cause.message
  | eventNotEnabled transition eventType =>
    (Report.actionNotEnabled transition).withFact "event_type" (.str eventType)
  | eventUnknown eventType =>
    .plain .actionNotFound ("No transition or handler for event type '" ++ eventType ++ "'")
  | conflict stream expected actual => .conflict stream expected actual
  | storeClosed => .storeClosed
  | unreadable what => .plain .deserializationError what.message
  | database => .plain .databaseError "A database error occurred"
  | unreachable => .plain .databaseConnectionFailed "Unable to connect to the database"
  | cannotOpen => .plain .databaseConnectionFailed "Failed to open event database"
  | settings => .plain .configurationError "Configuration error occurred"
  | unreadableSettings => .plain .invalidConfiguration "Configuration error occurred"
  | internal reason => .internalError reason

/-- The code of a fault. -/
def code (f : Fault) : Code :=
  f.report.code

/-- The signals of a new fault; a conflict is also counted by itself. -/
def signals (f : Fault) : List Signal :=
  match f with
  | conflict .. => [.count .concurrencyConflicts [] 1, f.code.signal]
  | f => [f.code.signal]

/-- Fail, and report the failure. -/
def raise {α : Type} (f : Fault) : Traced (Except Fault α) :=
  ⟨.error f, f.signals⟩

/-- An outcome with the signals of its fault. -/
def traced {α : Type} : Except Fault α → Traced (Except Fault α)
  | .ok a => .silent (.ok a)
  | .error f => f.raise

/-- Fail, report the failure and leave a state as it was. -/
def refuse {α σ : Type} (f : Fault) (state : σ) : Traced (Except Fault α × σ) :=
  ⟨(.error f, state), f.signals⟩

end Fault

end EventNet
