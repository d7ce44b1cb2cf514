import EventNet.Fault.Basic

/-!
The written form of failures.

A failure is written as an object with its code and its message.  What only operators may see is left
out where it comes from a part that the library does not word itself.
-/

namespace EventNet

namespace ExprError

/-- The name of a cause. -/
def name : ExprError → String
  | .parse .. => "Parse"
  | .tooDeep _ => "MaxDepthExceeded"
  | .unknownIdentifier _ => "UnknownIdentifier"
  | .unknownFunction _ => "UnknownFunction"
  | .type _ => "Type"
  | .divisionByZero => "DivisionByZero"
  | .arity .. => "Arity"
  | .notBoolean _ => "NotBoolean"
  | .notNumeric _ => "NotNumeric"

/-- Write an expression error. -/
def toJson (e : ExprError) : Json :=
  .obj [("error", .str e.name), ("message", .str e.message)]

end ExprError

/-- Whether the message for operators is worded by the library. -/
def Code.wordsInternal : Code → Bool
  | .deserializationError | .serializationError | .databaseError | .databaseConnectionFailed => false
  | _ => true

namespace Report

/-- The entity a report is about. -/
def entityJson? (r : Report) : Option Json := do
  let type ← r.details.entityType
  let id ← r.details.entityId
  some (.arr [.str type, .str id])

/-- Write a report; what is not known is left out. -/
def toJson (r : Report) : Json :=
  .object
    [("error", some (.str r.code.name)), ("message", some (.str r.message)),
     ("internal", if r.code.wordsInternal then r.internal.map .str else none),
     ("entity", r.entityJson?),
     ("context", if r.details.context.isEmpty then none else some (.obj r.details.context))]

/-- A text that may be missing. -/
def textOrNull : Option String → Json
  | some s => .str s
  | none => .null

/-- The expression error behind a report. -/
def exprError? (r : Report) : Option ExprError :=
  match r.origin with
  | some (.expression e) => some e
  | _ => none

/-- Write everything that is known about a report. -/
def fullJson (r : Report) : Json :=
  .obj [("display", .str r.text), ("code", .str r.code.name), ("code_json", .str r.code.word),
    ("numeric", .int r.code.number), ("category", .str r.code.category),
    ("severity", .str (Severity.ofCode r.code).word), ("retryable", .bool r.code.isRetryable),
    ("rejection", .bool r.code.isRejection), ("user", .str r.message),
    ("internal", textOrNull r.internal), ("entity_id", textOrNull r.details.entityId),
    ("details", r.details.toJson), ("source", textOrNull (r.origin.map Origin.message)),
    ("expr_error", (r.exprError?.map ExprError.toJson).getD .null)]

/-- Write what is known about a report apart from texts that the library does not word. -/
def briefJson (r : Report) : Json :=
  .obj [("code", .str r.code.name), ("user", .str r.message),
    ("retryable", .bool r.code.isRetryable), ("severity", .str (Severity.ofCode r.code).word),
    ("has_internal", .bool r.internal.isSome), ("has_source", .bool r.origin.isSome)]

end Report

/-- Write a fault. -/
def Fault.toJson (f : Fault) : Json :=
  f.report.toJson

end EventNet
