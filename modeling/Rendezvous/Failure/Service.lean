/-
  The failures that the service itself reports, with what they carry.

  * `ServiceError.message` is the wording, a text unless it was given otherwise;
  * `ServiceError.details` are the attributes worth telling a client: those that
    are set, in a fixed order.
-/
import Rendezvous.Http
import Rendezvous.Value.Display

namespace Rendezvous

/-- A failure reported by the service (`RegistryServiceError`).  Attributes that are not known are
    null. -/
inductive ServiceError where
  /-- any other failure, with a code and details of its own -/
  | general (message code details : Value)
  /-- the request is at fault (`ValidationError`) -/
  | validation (message field value hints : Value)
  /-- the caller is not known (`AuthenticationError`) -/
  | authentication (message : Value)
  /-- the identity has a nickname already (`IdentityAlreadyBoundError`) -/
  | identityTaken (identity : Value)
  /-- the nickname belongs to an identity already (`NicknameAlreadyBoundError`) -/
  | nicknameTaken (nickname : Value)
  /-- a table could not be read or written (`DynamoDBError`) -/
  | storage (message operation table cause retryable : Value)
  /-- a notification was not accepted (`NotificationDeliveryError`) -/
  | delivery (message kind bus cause : Value)
  /-- a setting is missing (`ConfigurationError`) -/
  | configuration (message key source : Value)
  deriving Repr, Inhabited

namespace ServiceError

/-- What is said about a failure. -/
def message : ServiceError → Value
  | .general message _ _ | .validation message _ _ _ | .authentication message
  | .storage message _ _ _ _ | .delivery message _ _ _ | .configuration message _ _ => message
  | .identityTaken identity =>
    .str ("Identity '" ++ identity.display ++ "' is already registered")
  | .nicknameTaken nickname =>
    .str ("Nickname '" ++ nickname.display ++ "' is already registered")

/-- The code of a failure. -/
def code : ServiceError → Value
  | .general _ code _ => code
  | .validation _ _ _ _ => .str ErrorCode.validation.text
  | .authentication _ => .str ErrorCode.authentication.text
  | .identityTaken _ => .str ErrorCode.identityTaken.text
  | .nicknameTaken _ => .str ErrorCode.nicknameTaken.text
  | .storage _ _ _ _ _ => .str ErrorCode.storage.text
  | .delivery _ _ _ _ => .str ErrorCode.delivery.text
  | .configuration _ _ _ => .str ErrorCode.configuration.text

/-- The fields with a truthy value. -/
def present (fields : Object) : Value := .obj (fields.filter fun (_, x) => x.isTruthy)

/-- The attributes that a client is told. -/
def details : ServiceError → Value
  | .general _ _ details => details.orEmpty
  | .validation _ field value hints =>
    present [("field", field), ("value", value), ("hints", hints)]
  | .authentication _ => .empty
  | .identityTaken identity => .obj [("identity", identity)]
  | .nicknameTaken nickname => .obj [("nickname", nickname)]
  | .storage _ operation table cause _ =>
    present [("operation", operation), ("table", table), ("original_error", cause)]
  | .delivery _ kind bus cause =>
    present [("kind", kind), ("event_bus", bus), ("original_error", cause)]
  | .configuration _ key source => present [("config_key", key), ("config_source", source)]

/-- The name of the kind of a failure. -/
def name : ServiceError → Text
  | .general _ _ _ => "RegistryServiceError"
  | .validation _ _ _ _ => "ValidationError"
  | .authentication _ => "AuthenticationError"
  | .identityTaken _ => "IdentityAlreadyBoundError"
  | .nicknameTaken _ => "NicknameAlreadyBoundError"
  | .storage _ _ _ _ _ => "DynamoDBError"
  | .delivery _ _ _ _ => "NotificationDeliveryError"
  | .configuration _ _ _ => "ConfigurationError"

/-- The attributes that only some kinds have. -/
def ownAttributes : ServiceError → Object
  | .general _ _ _ | .authentication _ => []
  | .validation _ field value hints =>
    [("field", field), ("value", value), ("hints", hints.orElse (.arr []))]
  | .identityTaken identity => [("identity", identity)]
  | .nicknameTaken nickname => [("nickname", nickname)]
  | .storage _ operation table cause retryable =>
    [("operation", operation), ("table", table), ("original_error", cause),
     ("retryable", retryable)]
  | .delivery _ kind bus cause =>
    [("kind", kind), ("event_bus", bus), ("original_error", cause)]
  | .configuration _ key source => [("config_key", key), ("config_source", source)]

/-- All attributes of a failure. -/
def attributes (e : ServiceError) : Object :=
  let shared : Object :=
    [("message", e.message), ("error_code", e.code), ("details", e.details)]
  e.ownAttributes ++ shared

/-- A failure as an object (`to_dict`): code and details only where there are any. -/
def toObject (e : ServiceError) : Object :=
  let optional : Object := [("error_code", e.code), ("details", e.details)]
  ("error", .str e.name) :: ("message", e.message) ::
    optional.filter fun (_, x) => x.isTruthy

/-- Whether the same request may succeed later. -/
def isRetryable : ServiceError → Bool
  | .storage _ _ _ _ retryable => retryable.isTruthy
  | _ => false

/-- A failure of the request, at a field. -/
def atField (message : Text) (field : Value) : ServiceError :=
  .validation (.str message) field .null .null

/-- The failure of a caller that is not known. -/
def unauthenticated : ServiceError := .authentication (.str "Authentication required")

end ServiceError

end Rendezvous
