/-
  HTTP statuses, and the codes of failed responses with the status of each.

  A name in parentheses, here and in the other modules, is the one that the service itself has
  for the same thing.
-/
import Rendezvous.Text.Basic

namespace Rendezvous

/-- The statuses in use (`HTTPConstants`). -/
inductive Status where
  | ok
  | created
  | noContent
  | badRequest
  | unauthorized
  | forbidden
  | notFound
  | conflict
  | tooManyRequests
  | internalServerError
  | badGateway
  | serviceUnavailable
  deriving DecidableEq, Repr

/-- The number of a status. -/
def Status.number : Status → Nat
  | .ok => 200
  | .created => 201
  | .noContent => 204
  | .badRequest => 400
  | .unauthorized => 401
  | .forbidden => 403
  | .notFound => 404
  | .conflict => 409
  | .tooManyRequests => 429
  | .internalServerError => 500
  | .badGateway => 502
  | .serviceUnavailable => 503

/-- The media type of responses (`HTTPConstants.JSON`). -/
def mediaType : Text := "application/json"

/-- The codes of failed responses (`ErrorCodes`). -/
inductive ErrorCode where
  | validation
  | authentication
  | identityTaken
  | nicknameTaken
  | delivery
  | storage
  | configuration
  | internal
  deriving DecidableEq, Repr

namespace ErrorCode

/-- All codes. -/
def all : List ErrorCode :=
  [.validation, .authentication, .identityTaken, .nicknameTaken, .delivery, .storage,
   .configuration, .internal]

/-- A code as responses carry it. -/
def text : ErrorCode → Text
  | .validation => "VALIDATION_ERROR"
  | .authentication => "AUTHENTICATION_ERROR"
  | .identityTaken => "IDENTITY_ALREADY_BOUND"
  | .nicknameTaken => "NICKNAME_ALREADY_BOUND"
  | .delivery => "NOTIFICATION_DELIVERY_ERROR"
  | .storage => "DYNAMODB_ERROR"
  | .configuration => "CONFIGURATION_ERROR"
  | .internal => "INTERNAL_ERROR"

/-- The code that a response carries, if it is one of ours. -/
def ofText? (t : Text) : Option ErrorCode := all.find? fun code => code.text = t

/-- The status of a response that carries a code (`STATUS_BY_ERROR_CODE`). -/
def status : ErrorCode → Status
  | .validation => .badRequest
  | .authentication => .unauthorized
  | .identityTaken | .nicknameTaken => .conflict
  | .delivery => .badGateway
  | .storage | .configuration | .internal => .internalServerError

/-- Every code is read back from its text. -/
theorem ofText?_text (code : ErrorCode) : ofText? code.text = some code := by
  cases code <;> decide

end ErrorCode

end Rendezvous
