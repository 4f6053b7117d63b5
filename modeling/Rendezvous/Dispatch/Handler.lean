/-
  The dispatcher (`dispatch_handler`), which stands between events and the functions that
  answer them.

  It admits a request, runs the function, and answers every failure with a
  response: a failure of the service by its code and details, an unusable value
  as a fault of the request, and anything else without a word about its cause.
  Gateway events get a gateway response.

  * `Handler.handle` answers an event;
  * `Handler.respond` is the response to a failure.
-/
import Rendezvous.Diagnosis
import Rendezvous.Dispatch.Request
import Rendezvous.Response
import Rendezvous.Text.Digit

namespace Rendezvous

/-- A function behind the dispatcher: its name, which requests it admits, whether its
    calls are logged, and what it does. -/
structure Handler where
  name : Text
  check : Request → Except Failure Request
  logged : Bool
  run : Request → Act Value

namespace Handler

/-- A failed response, the mark of a failure worth another try at the end of its error. -/
def markRetryable (retryable : Bool) : Value → Value
  | .obj response =>
    match retryable, Object.field? "error" response with
    | true, some (.obj error) =>
      .obj (Object.put "error" (.obj (Object.put "retryable" (.bool true) error)) response)
    | _, _ => .obj response
  | response => response

/-- Logs a failure of the service that puts the blame on the request. -/
def logBlame (e : ServiceError) : Act Unit := do
  match e with
  | .validation _ field _ _ => let _ ← diagnoseRequest field (.service e)
  | _ => return ()

/-- The response to a failure. -/
def respond (function : Text) : Failure → Act Value
  | .service e => do
    logBlame e
    let response := Response.failed (← Act.now) e.code e.message e.details (.str function)
    return markRetryable e.isRetryable response
  | .unusable reason => do
    let _ ← diagnoseRequest .null (.unusable reason)
    return Response.failed (← Act.now) (.str ErrorCode.validation.text) (.str reason.message) .null
      (.str function)
  | failure => do
    Act.note mainSource
      (.trouble (.str ("Unexpected error in " ++ function)) (some (.ofFailure true failure))) []
    return Response.failed (← Act.now) (.str ErrorCode.internal.text)
      (.str "Internal server error occurred") .null (.str function)

/-- The identifier of a request in the context of a call. -/
def requestId : Value → Value
  | .obj context => (Object.field? "aws_request_id" context).getD (.str "unknown")
  | _ => .str "unknown"

/-- The code of a failed response. -/
def codeOf (response : Value) : Except Failure Value := do
  match ← response.fieldAt "error" with
  | .obj error => (Value.obj error).fieldAt "code"
  | _ => .error .wrongType

/-- The milliseconds between two readings of the stopwatch. -/
def elapsed (start stop : Value) : Except Failure Number := do
  match Number.millisecondsBetween? (← start.number) (← stop.number) with
  | some duration => return duration
  | none => .error (.defect .overflow "int too large to convert to float")

/-- Refuses a duration with too many digits to be logged. -/
def checkDuration : Number → Except Failure Unit
  | .whole n => if Integer.isWritable n then .ok () else .error (.badValue (Integer.tooLong []))
  | .floating _ => .ok ()

/-- Logs the end of a call (`log_lambda_end`). -/
def logEnd (function : Text) (start response : Value) : Act Unit := do
  let duration ← elapsed start (← Act.stopwatch)
  let success := (← response.fieldOrNull "success").isTruthy
  let remarks : Object ← if success then pure [] else pure [("error_code", ← codeOf response)]
  checkDuration duration
  Act.note mainSource (.ended (.str function) (.bool success) (some duration)) remarks

/-- The response in the form that an event asks for. -/
def deliver (event response : Value) : Except Failure Value :=
  if Request.isGatewayEvent event then
    (Response.status response).bind fun status =>
      Response.gateway (.int status.number) response
  else .ok response

/-- The response of a function to an event: that of a failure, if it fails. -/
def answer (h : Handler) (event : Value) : Act Value := do
  let answered : Act Value := do
    let request ← Request.accept h.check event
    h.run request
  match ← answered.attempt with
  | .ok response => return response
  | .error failure => respond h.name failure

/-- Answers an event in the context of a call (`dispatch_handler`). -/
def handle (h : Handler) (event context : Value) : Act Value := do
  let start ← Act.stopwatch
  if h.logged then
    Act.note mainSource (.started (.str h.name) event (requestId context)) []
  let response ← h.answer event
  if h.logged then logEnd h.name start response
  deliver event response

end Handler

end Rendezvous
