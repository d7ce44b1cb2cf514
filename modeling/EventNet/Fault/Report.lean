import EventNet.Expr.Error
import EventNet.Fault.Code
import EventNet.Json.Shape

/-!
Reports of failures: what a caller is told about one.

A report has a code, a message for users, a message for operators, the entity concerned, further
facts by name, and the failure behind it.  The functions here write the reports of the library's own
failures.
-/

namespace EventNet

/-- What a failure is about. -/
structure Details where
  context : Dict Json
  entityId : Option String
  entityType : Option String
  deriving Repr

namespace Details

/-- Nothing known. -/
def empty : Details :=
  ⟨[], none, none⟩

/-- An entity. -/
def entity (kind id : String) : Details :=
  ⟨[], some id, some kind⟩

/-- Add a fact. -/
def withFact (d : Details) (name : String) (value : Json) : Details :=
  { d with context := d.context.insert name value }

/-- The details as JSON; what is not known is left out. -/
def toJson (d : Details) : Json :=
  .object
    [("context", if d.context.isEmpty then none else some (.obj d.context)),
     ("entity_id", d.entityId.map .str),
     ("entity_type", d.entityType.map .str)]

/-- Read details from JSON. -/
def ofJson? (j : Json) : Option Details := do
  let r ← j.record? ["context", "entity_id", "entity_type"]
  let context ← r.withDefault "context" [] (Json.dictOf? fun j => some j.canonical)
  let entityId ← r.optional "entity_id" Json.str?
  let entityType ← r.optional "entity_type" Json.str?
  some ⟨context, entityId, entityType⟩

end Details

/-- The failure behind a failure. -/
inductive Origin where
  | expression (e : ExprError)
  | other (message : String)
  deriving Repr

/-- The wording of an origin. -/
def Origin.message : Origin → String
  | .expression e => e.message
  | .other message => message

/-- What is told about a failure. -/
structure Report where
  code : Code
  message : String
  /-- A message for operators. -/
  internal : Option String
  details : Details
  origin : Option Origin
  deriving Repr

namespace Report

/-- A report of a code and a message. -/
def plain (code : Code) (message : String) : Report :=
  ⟨code, message, none, .empty, none⟩

/-- A report with a message for operators. -/
def withInternal (code : Code) (message internal : String) : Report :=
  ⟨code, message, some internal, .empty, none⟩

/-- A report about an entity. -/
def about (code : Code) (kind id message : String) : Report :=
  ⟨code, message, none, .entity kind id, none⟩

/-- Add a fact. -/
def withFact (r : Report) (name : String) (value : Json) : Report :=
  { r with details := r.details.withFact name value }

/-- The one-line form. -/
def text (r : Report) : String :=
  let internal := match r.internal with
    | some m => " (internal: " ++ m ++ ")"
    | none => ""
  "[" ++ r.code.name ++ "] " ++ r.message ++ internal

/-- An action that the schema does not declare. -/
def actionNotFound (action : String) : Report :=
  about .actionNotFound "action" action ("Action not found: " ++ action)

/-- An action whose input states do not allow it. -/
def actionNotEnabled (action : String) : Report :=
  about .actionNotEnabled "action" action ("Action not enabled: " ++ action)

/-- A guard that is false. -/
def guardNotSatisfied (action guard : String) : Report :=
  (about .guardNotSatisfied "action" action
    ("Guard not satisfied for action " ++ action ++ ": " ++ guard)).withFact "guard" (.str guard)

/-- A guard without a truth value. -/
def guardEvaluation (action : String) (e : ExprError) : Report :=
  { about .guardEvaluation "action" action
      ("Guard evaluation failed for action " ++ action ++ ": " ++ e.message) with
    origin := some (.expression e) }

/-- A constraint that is false. -/
def constraintViolated (constraint expr : String) : Report :=
  (about .constraintViolated "constraint" constraint
    ("Constraint violated: " ++ constraint ++ " (" ++ expr ++ ")")).withFact "expr" (.str expr)

/-- A constraint without a truth value. -/
def constraintEvaluation (constraint reason : String) : Report :=
  { about .constraintEvaluation "constraint" constraint
      ("Constraint could not be evaluated: " ++ constraint) with
    internal := some reason }

/-- Bindings that an action's arcs cannot use. -/
def invalidBinding (action reason : String) : Report :=
  about .invalidBinding "action" action
    ("Invalid binding for action " ++ action ++ ": " ++ reason)

/-- A definition that is not well formed. -/
def schemaValidation (reason : String) : Report :=
  plain .schemaValidation ("Invalid schema: " ++ reason)

/-- An append that expected another version of the stream. -/
def conflict (stream : String) (expected actual : Int) : Report :=
  ((about .concurrencyConflict "stream" stream
    ("Concurrency conflict on stream " ++ stream ++ ": expected version " ++ toString expected ++
      ", actual " ++ toString actual)).withFact "expected_version" (.int expected)).withFact
        "actual_version" (.int actual)

/-- A stream that does not exist. -/
def streamNotFound (stream : String) : Report :=
  about .streamNotFound "stream" stream ("Stream not found: " ++ stream)

/-- A call to a closed store. -/
def storeClosed : Report :=
  plain .storeClosed "Event store is closed"

/-- A failure of the library itself. -/
def internalError (reason : String) : Report :=
  withInternal .internalError "An internal error occurred" reason

/-- A failed input or output operation. -/
def inputOutput (reason : String) : Report :=
  { withInternal .internalError "An I/O error occurred" reason with origin := some (.other reason) }

/-- Settings that do not make sense. -/
def configuration (reason : String) : Report :=
  plain .configurationError reason

/-- The code of an expression error. -/
def expressionCode : ExprError → Code
  | .parse .. => .expressionParse
  | .tooDeep _ => .expressionParse
  | .unknownIdentifier _ => .unknownIdentifier
  | _ => .expressionEvaluation

/-- An expression that could not be compiled or evaluated. -/
def expression (e : ExprError) : Report :=
  { plain (expressionCode e) e.message with origin := some (.expression e) }

/-- Whether JSON text was at fault, or the channel it was read from. -/
def json (textAtFault : Bool) (reason : String) : Report :=
  { withInternal (if textAtFault then .deserializationError else .serializationError)
      "Failed to process JSON data" reason with
    origin := some (.other reason) }

/-- How a database refuses. -/
inductive DatabaseRefusal where
  | rowMissing
  | unreachable
  | other
  deriving DecidableEq, Repr

/-- A refusal by the database. -/
def database (refusal : DatabaseRefusal) (reason : String) : Report :=
  let (code, message) := match refusal with
    | .rowMissing => (Code.streamNotFound, "The requested record was not found")
    | .unreachable => (.databaseConnectionFailed, "Unable to connect to the database")
    | .other => (.databaseError, "A database error occurred")
  { withInternal code message reason with origin := some (.other reason) }

end Report

end EventNet
