/-
  Requests, as they are read from events (`extract_request`).

  An event from the HTTP gateway has a request context; its body is JSON text,
  and the caller is the subject of the claims that the gateway has verified.
  Every other event comes from inside: it is the body itself and names its
  caller.

  * `Request.ofEvent` reads an event;
  * `Request.require` refuses a request that lacks fields, `Request.requireListed`
    one that lacks fields listed by any value.
-/
import Rendezvous.Field.Fit
import Rendezvous.Identity
import Rendezvous.Json.Parser

namespace Rendezvous

/-- A request: who asks, and what for. -/
structure Request where
  caller : Text
  body : Object
  deriving Repr

namespace Request

/-- Whether an event comes from the gateway (`is_api_gateway_event`). -/
def isGatewayEvent : Value → Bool
  | .obj event => Object.has "requestContext" event
  | _ => false

/-- What is said of text that cannot be read. -/
def unreadable : Json.Refusal → Failure
  | .malformed => .atField "Invalid JSON in request body" (.str "body")
  | .tooDeep => .defect .tooDeep "maximum recursion depth exceeded"
  | .hugeInteger digits => .badValue (Json.hugeIntegerMessage digits)

/-- The body of a gateway event; one that is absent or empty is an empty object. -/
def gatewayBody (event : Object) : Except Failure Value :=
  match Object.fieldOrNull "body" event with
  | .str [] => .ok .empty
  | .str t => (Json.parse t).mapError unreadable
  | body => .ok body.orEmpty

/-- The claims about the caller of a gateway event, in either of the two places
    where a gateway puts them. -/
def claims (event : Object) : Except Failure Value := do
  let context ← ((Object.field? "requestContext" event).getD .empty).fields
  let authorizer ← (Object.fieldOrNull "authorizer" context).orEmpty.fields
  let direct := Object.fieldOrNull "claims" authorizer
  if direct.isTruthy then return direct
  let token ← ((Object.field? "jwt" authorizer).getD .empty).fields
  return (Object.fieldOrNull "claims" token).orEmpty

/-- The body and the caller of an event, as they are given. -/
def parts : Value → Except Failure (Value × Value)
  | .obj event =>
    if isGatewayEvent (.obj event) then do
      let body ← gatewayBody event
      let subject ← (← claims event).fieldOrNull "sub"
      return (body, subject)
    else .ok (.obj event, Object.fieldOrNull "caller" event)
  | event => .ok (event, .null)

/-- The body of a request has to be an object. -/
def bodyFields : Value → Except Failure Object
  | .obj body => .ok body
  | _ => .error (.atField "Request body must be a JSON object" (.str "body"))

/-- Reads an event (`extract_request`): its body first, then its caller. -/
def ofEvent (event : Value) : Except Failure Request := do
  let (body, subject) ← parts event
  let body ← bodyFields body
  let caller ← Identity.authenticate subject
  return ⟨caller, body⟩

/-- Names in a row. -/
def listed (names : List Text) : Text := Text.joinWith ", " names

/-- The refusal of a request that lacks some of the required fields. -/
def incomplete (missing required : List Text) : Failure :=
  .service (.validation (.str ("Missing required fields: " ++ listed missing)) .null .null
    (.arr [.str ("Required fields: " ++ listed required)]))

/-- Refuses a request that lacks any of the required fields (`validate_required_fields`). -/
def require (required : List Text) (r : Request) : Except Failure Request :=
  match Field.missingFrom required (.obj r.body) with
  | [] => .ok r
  | missing => .error (incomplete missing required)

/-- Refuses a request that lacks any of the fields that a value lists (`validate_required_fields`);
    an empty value lists none. -/
def requireListed (required : Value) (r : Request) : Except Failure Request := do
  if !required.isTruthy then return r
  match ← (← Field.lacking required (.obj r.body)).texts with
  | [] => return r
  | missing => .error (incomplete missing (← required.texts))

/-- The request of an event, if it is admitted by a check. -/
def accept (check : Request → Except Failure Request) (event : Value) : Except Failure Request :=
  (ofEvent event).bind check

/-- An event with the request that was read from it. -/
def annotate (r : Request) : Value → Value
  | .obj event =>
    .obj (Object.put "caller_identity" (.str r.caller)
      (Object.put "parsed_body" (.obj r.body) event))
  | event => event

/-- What becomes of an event: an admitted one is annotated. -/
def eventAfter (check : Request → Except Failure Request) (event : Value) : Value :=
  match accept check event with
  | .ok r => r.annotate event
  | .error _ => event

end Request

end Rendezvous
