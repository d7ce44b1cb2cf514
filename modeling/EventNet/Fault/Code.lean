import EventNet.Telemetry.Signal

/-!
Codes of failures and what follows from a code: its number, its category, how severe it is, and
whether trying again or giving up is the right answer.
-/

namespace EventNet

/-- The machine-readable kind of a failure. -/
inductive Code where
  | expressionParse
  | expressionEvaluation
  | unknownIdentifier
  | actionNotFound
  | actionNotEnabled
  | guardNotSatisfied
  | guardEvaluation
  | constraintViolated
  | constraintEvaluation
  | invalidBinding
  | schemaValidation
  | concurrencyConflict
  | streamNotFound
  | storeClosed
  | databaseError
  | databaseConnectionFailed
  | serializationError
  | deserializationError
  | configurationError
  | invalidConfiguration
  | internalError
  deriving DecidableEq, Repr

namespace Code

/-- Every code. -/
def all : List Code :=
  [expressionParse, expressionEvaluation, unknownIdentifier, actionNotFound, actionNotEnabled,
   guardNotSatisfied, guardEvaluation, constraintViolated, constraintEvaluation, invalidBinding,
   schemaValidation, concurrencyConflict, streamNotFound, storeClosed, databaseError,
   databaseConnectionFailed, serializationError, deserializationError, configurationError,
   invalidConfiguration, internalError]

/-- The name shown to people. -/
def name : Code → String
  | expressionParse => "ExpressionParse"
  | expressionEvaluation => "ExpressionEvaluation"
  | unknownIdentifier => "UnknownIdentifier"
  | actionNotFound => "ActionNotFound"
  | actionNotEnabled => "ActionNotEnabled"
  | guardNotSatisfied => "GuardNotSatisfied"
  | guardEvaluation => "GuardEvaluation"
  | constraintViolated => "ConstraintViolated"
  | constraintEvaluation => "ConstraintEvaluation"
  | invalidBinding => "InvalidBinding"
  | schemaValidation => "SchemaValidation"
  | concurrencyConflict => "ConcurrencyConflict"
  | streamNotFound => "StreamNotFound"
  | storeClosed => "StoreClosed"
  | databaseError => "DatabaseError"
  | databaseConnectionFailed => "DatabaseConnectionFailed"
  | serializationError => "SerializationError"
  | deserializationError => "DeserializationError"
  | configurationError => "ConfigurationError"
  | invalidConfiguration => "InvalidConfiguration"
  | internalError => "InternalError"

/-- The word exchanged with other programs. -/
def word : Code → String
  | expressionParse => "EXPRESSION_PARSE"
  | expressionEvaluation => "EXPRESSION_EVALUATION"
  | unknownIdentifier => "UNKNOWN_IDENTIFIER"
  | actionNotFound => "ACTION_NOT_FOUND"
  | actionNotEnabled => "ACTION_NOT_ENABLED"
  | guardNotSatisfied => "GUARD_NOT_SATISFIED"
  | guardEvaluation => "GUARD_EVALUATION"
  | constraintViolated => "CONSTRAINT_VIOLATED"
  | constraintEvaluation => "CONSTRAINT_EVALUATION"
  | invalidBinding => "INVALID_BINDING"
  | schemaValidation => "SCHEMA_VALIDATION"
  | concurrencyConflict => "CONCURRENCY_CONFLICT"
  | streamNotFound => "STREAM_NOT_FOUND"
  | storeClosed => "STORE_CLOSED"
  | databaseError => "DATABASE_ERROR"
  | databaseConnectionFailed => "DATABASE_CONNECTION_FAILED"
  | serializationError => "SERIALIZATION_ERROR"
  | deserializationError => "DESERIALIZATION_ERROR"
  | configurationError => "CONFIGURATION_ERROR"
  | invalidConfiguration => "INVALID_CONFIGURATION"
  | internalError => "INTERNAL_ERROR"

/-- The number of a code; the hundreds tell its category. -/
def number : Code → Nat
  | expressionParse => 1000
  | expressionEvaluation => 1001
  | unknownIdentifier => 1002
  | actionNotFound => 1100
  | actionNotEnabled => 1101
  | guardNotSatisfied => 1102
  | guardEvaluation => 1103
  | constraintViolated => 1104
  | constraintEvaluation => 1105
  | invalidBinding => 1106
  | schemaValidation => 1200
  | concurrencyConflict => 2000
  | streamNotFound => 2001
  | storeClosed => 2002
  | databaseError => 2003
  | databaseConnectionFailed => 2004
  | serializationError => 2200
  | deserializationError => 2201
  | configurationError => 5000
  | invalidConfiguration => 5001
  | internalError => 9000

/-- The part of the library a code belongs to. -/
def category (c : Code) : String :=
  match c.number / 100 with
  | 10 => "expression"
  | 11 => "runtime"
  | 12 => "schema"
  | 20 => "store"
  | 22 => "serialization"
  | 50 => "configuration"
  | _ => "internal"

/-- Whether the same call may succeed when it is made again. -/
def isRetryable : Code → Bool
  | concurrencyConflict => true
  | databaseConnectionFailed => true
  | _ => false

/-- Whether a failure is an ordinary negative answer to a command. -/
def isRejection : Code → Bool
  | actionNotEnabled => true
  | guardNotSatisfied => true
  | guardEvaluation => true
  | _ => false

end Code

/-- How much attention a failure needs. -/
inductive Severity where
  | low | medium | high | critical
  deriving DecidableEq, Repr

namespace Severity

/-- The severity of a code. -/
def ofCode : Code → Severity
  | .constraintViolated => medium
  | .constraintEvaluation => medium
  | .concurrencyConflict => medium
  | .storeClosed => medium
  | .databaseError => high
  | .serializationError => high
  | .deserializationError => high
  | .configurationError => high
  | .invalidConfiguration => high
  | .databaseConnectionFailed => critical
  | .internalError => critical
  | _ => low

/-- The word of a severity. -/
def word : Severity → String
  | low => "low"
  | medium => "medium"
  | high => "high"
  | critical => "critical"

/-- The log line of a failure. -/
def logLine : Severity → Signal
  | low => .log .debug "Low severity error"
  | medium => .log .warn "Medium severity error"
  | high => .log .error "High severity error"
  | critical => .log .error "CRITICAL ERROR"

end Severity

namespace Code

/-- The signal of a new failure. -/
def signal (c : Code) : Signal :=
  .count .errors
    [("category", c.category), ("code", c.name),
     ("retryable", if c.isRetryable then "true" else "false")] 1

end Code

end EventNet
