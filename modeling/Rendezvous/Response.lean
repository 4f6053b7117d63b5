/-
  Responses, free of any transport, and their form behind an HTTP gateway.

  * `Response.success` and `Response.failed` are the two shapes of a response;
    `proxyWith` and `successWith` take further fields from values of any type;
  * `Response.status` is the HTTP status of a response;
  * `Response.gateway` wraps a response for the gateway.
-/
import Rendezvous.Failure.Basic
import Rendezvous.Instant
import Rendezvous.Json.Printer
import Rendezvous.Value.Access

namespace Rendezvous.Response

/-- The headers that every gateway response has. -/
def defaultHeaders : Object :=
  [("Content-Type", .str mediaType), ("Access-Control-Allow-Origin", .str "*"),
   ("Access-Control-Allow-Headers",
    .str "Content-Type,X-Amz-Date,Authorization,X-Api-Key,X-Amz-Security-Token"),
   ("Access-Control-Allow-Methods", .str "GET,POST,PUT,DELETE,OPTIONS")]

/-- A gateway response with its headers (`create_response`). -/
def proxy (status body : Value) (headers : Object) : Value :=
  .obj [("statusCode", status), ("headers", .obj headers), ("body", body)]

/-- A gateway response with further headers, which go before the default ones
    (`create_response`). -/
def proxyWith (status body headers : Value) : Except Failure Value :=
  (defaultHeaders.update headers).map (proxy status body)

/-- What a response tells about itself: its time, and the function that gives it,
    unless that is an empty value. -/
def origin (now : Instant) (function : Value) : Object :=
  let time : Object := [("timestamp", .str now.isoText)]
  if function.isTruthy then Object.put "function_name" function time else time

/-- A response with its data and metadata. -/
def carriedOut (data : Value) (metadata : Object) : Value :=
  .obj [("success", .bool true), ("data", data), ("metadata", .obj metadata)]

/-- The response to a request that was carried out (`create_success_response`). -/
def success (now : Instant) (data : Value) (metadata : Object) (function : Value) : Value :=
  carriedOut data (Object.merge (origin now function) metadata)

/-- The response to a request that was carried out, with metadata of any type
    (`create_success_response`). -/
def successWith (now : Instant) (data metadata function : Value) : Except Failure Value :=
  ((origin now function).update metadata).map (carriedOut data)

/-- The response to a request that failed (`create_failure_response`); details only where there are
    any. -/
def failed (now : Instant) (code message details function : Value) : Value :=
  let error : Object := [("code", code), ("message", message)]
  .obj [("success", .bool false),
    ("error", .obj (if details.isTruthy then Object.put "details" details error else error)),
    ("metadata", .obj (origin now function))]

/-- The status that goes with the code of a failed response. -/
def statusOfCode : Value → Except Failure Status
  | .str t =>
    match ErrorCode.ofText? t with
    | some code => .ok code.status
    | none => .ok .internalServerError
  | .arr _ | .obj _ => .error .wrongType
  | _ => .ok .internalServerError

/-- The HTTP status of a response (`status_for`). -/
def status (response : Value) : Except Failure Status :=
  response.fields.bind fun fields =>
    if (Object.fieldOrNull "success" fields).isTruthy then .ok .ok
    else
      (((Object.field? "error" fields).getD .empty).fieldOrNull "code").bind statusOfCode

/-- A response wrapped for the gateway, its body as JSON text (`to_api_gateway_response`). -/
def gateway (status : Value) (payload : Value) : Except Failure Value :=
  match Json.print? payload with
  | some text => .ok (proxy status (.str text) defaultHeaders)
  | none => .error .wrongType

end Rendezvous.Response
