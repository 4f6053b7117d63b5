/-
  What failures of the store and of requests mean to a client (`AWSErrorHandler`).

  * `Failure.diagnosis` sorts a failure of a store operation: what kind it is,
    what is said about it, its status, and whether to try again;
  * `Failure.toStorage` reports it as a failure of the service;
  * `diagnoseStorage` and `diagnoseRequest` log a failure in passing.
-/
import Rendezvous.Act

namespace Rendezvous

/-- The source of log entries that belong to no service in particular. -/
def mainSource : Text := "registry-service"

/-- What a failure means. -/
structure Diagnosis where
  category : Text
  message : Text
  status : Status
  retryable : Bool
  deriving DecidableEq, Repr

/-- A diagnosis as a response carries it. -/
def Diagnosis.toObject (d : Diagnosis) : Object :=
  [("success", .bool false), ("error_type", .str d.category), ("error_message", .str d.message),
   ("status_code", .int d.status.number), ("retryable", .bool d.retryable)]

/-- The diagnosis of a refusal by its code. -/
def diagnoseCode (code : Value) : Diagnosis :=
  if code.isText "ThrottlingException" ||
      code.isText "ProvisionedThroughputExceededException" then
    ⟨"ThrottlingError", "Database is temporarily busy. Please try again.", .tooManyRequests, true⟩
  else if code.isText "ResourceNotFoundException" then
    ⟨"ResourceNotFound", "Database resource not found", .notFound, false⟩
  else ⟨"AWSError", "AWS error: " ++ code.display, .internalServerError, true⟩

namespace Failure

/-- What a failure of an operation on the store means. -/
def diagnosis (operation : Value) : Failure → Diagnosis
  | .table .doesNotExist _ =>
    ⟨"NotFound", "The requested item was not found", .notFound, false⟩
  | .table .transactWrite _ =>
    ⟨"TransactionCancelled", "Database transaction was cancelled: " ++ operation.display,
      .conflict, false⟩
  | .table .get _ | .table .query _ | .table .update _ | .table .delete _ | .table .put _ =>
    ⟨"DatabaseError", "Database operation failed: " ++ operation.display, .internalServerError,
      true⟩
  | .table _ _ => ⟨"DatabaseError", "Database operation failed", .internalServerError, true⟩
  | .remote (.refused r) => diagnoseCode r.code
  | .remote _ =>
    ⟨"ConnectionError", "Could not reach the database", .serviceUnavailable, true⟩
  | _ => ⟨"DatabaseError", "Unexpected database error occurred", .internalServerError, false⟩

/-- How a failure of an operation on the store is logged; `handling` tells that it
    is being handled at the time. -/
def storageNote (operation : Value) (handling : Bool) (failure : Failure) : Log.Note :=
  let trouble (message : Text) : Log.Note :=
    .trouble (.str message) (some (.ofFailure handling failure))
  match failure with
  | .table .doesNotExist _ => .plain .warning (.str "DynamoDB item not found")
  | .table .transactWrite _ =>
    .plain .warning (.str ("DynamoDB transaction cancelled: " ++ operation.display))
  | .table .get _ | .table .query _ | .table .update _ | .table .delete _ | .table .put _ =>
    trouble ("DynamoDB operation failed: " ++ operation.display)
  | .table _ _ => trouble "PynamoDB error occurred"
  | .remote (.refused _) => trouble "DynamoDB ClientError"
  | .remote _ => trouble "DynamoDB connection error"
  | _ => trouble "Unexpected database error"

/-- What is logged along with a failure of an operation on the store. -/
def storageContext (operation table : Value) (failure : Failure) : Object :=
  let context : Object :=
    [("operation", operation), ("table_name", table.orElse (.str "unknown")),
     ("error_type", .str failure.name), ("error_message", .str failure.message)]
  match failure with
  | .remote (.refused r) => Object.put "aws_error_code" r.code context
  | _ => context

/-- A failure of an operation on the store, as the service reports it. -/
def toStorage (operation table : Value) (failure : Failure) : ServiceError :=
  let d := failure.diagnosis operation
  .storage (.str d.message) operation table (.str failure.message) (.bool d.retryable)

/-- What a failure of a request means. -/
def requestDiagnosis (failure : Failure) : Diagnosis :=
  ⟨"ValidationError", failure.message, .badRequest, false⟩

/-- What is logged along with a failure of a request. -/
def requestContext (field : Value) (failure : Failure) : Object :=
  [("field_name", field.orElse (.str "unknown")), ("error_type", .str failure.name),
   ("error_message", .str failure.message)]

end Failure

/-- Logs a failure of an operation on the store and tells what it means
    (`handle_dynamodb_error`). -/
def diagnoseStorage (operation table : Value) (handling : Bool) (failure : Failure) :
    Act Diagnosis := do
  Act.note mainSource (failure.storageNote operation handling)
    (failure.storageContext operation table)
  return failure.diagnosis operation

/-- Logs a failure of an operation on the store and reports it for the service
    (`to_dynamodb_error`). -/
def reportStorage (operation table : Value) (handling : Bool) (failure : Failure) :
    Act ServiceError := do
  let _ ← diagnoseStorage operation table handling failure
  return failure.toStorage operation table

/-- Logs a failure of a request and tells what it means (`handle_validation_error`). -/
def diagnoseRequest (field : Value) (failure : Failure) : Act Diagnosis := do
  Act.note mainSource (.plain .info (.str "Validation error")) (failure.requestContext field)
  return failure.requestDiagnosis

/-- Goes on with what is left after a failure of an operation on the store: it is
    logged, and the service reports it. -/
def Act.failStorage {α : Type} (operation table : Text) (failure : Failure) : Act α := do
  let e ← reportStorage (.str operation) (.str table) true failure
  Act.fail (.service e)

end Rendezvous
