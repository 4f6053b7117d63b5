/-
  Failures of remote calls: a refusal that a remote service answered, or a fault
  on the way to it, as `handle_dynamodb_error`, `EventBridgeTransport.publish` and
  `get_ssm_parameter` tell them apart.
-/
import Rendezvous.Value.Display

namespace Rendezvous

/-- A refusal that a remote service answered. -/
structure Refusal where
  /-- the error object of the answer, if it has one -/
  error : Option Object
  /-- what the answer tells about how it came about -/
  metadata : Object
  /-- why the parts of a transaction were refused, where that is told -/
  reasons : Value
  /-- the name of the operation that was called -/
  operation : Text
  deriving Repr, Inhabited

namespace Refusal

/-- A refusal with a code and a message. -/
def make (code message : Value) (operation : Text) : Refusal :=
  ⟨some [("Code", code), ("Message", message)], [], .arr [], operation⟩

/-- A field of the error object as it was answered. -/
def told (key : Text) (r : Refusal) : Value :=
  ((r.error.getD []).field? key).getD (.str "Unknown")

/-- The code of a refusal as it was answered. -/
def code (r : Refusal) : Value := r.told "Code"

/-- The remark on how often a refused call was tried. -/
def retryRemark (r : Refusal) : Text :=
  match (Object.fieldOrNull "MaxAttemptsReached" r.metadata).isTruthy,
    Object.field? "RetryAttempts" r.metadata with
  | true, some attempts => " (reached max retries: " ++ attempts.display ++ ")"
  | _, _ => []

/-- What is said about a refusal. -/
def message (r : Refusal) : Text :=
  "An error occurred (" ++ r.code.display ++ ") when calling the " ++ r.operation ++
    " operation" ++ r.retryRemark ++ ": " ++ (r.told "Message").display

end Refusal

/-- A failure of a remote call. -/
inductive RemoteError where
  | refused (refusal : Refusal)
  /-- a fault of no further known kind -/
  | unspecified
  /-- the endpoint did not answer -/
  | unreachable (url : Value)
  /-- there are no credentials to call with -/
  | noCredentials
  /-- no region is configured to call in -/
  | noRegion
  deriving Repr, Inhabited

namespace RemoteError

/-- What is said about a failure. -/
def message : RemoteError → Text
  | .refused r => r.message
  | .unspecified => "An unspecified error occurred"
  | .unreachable url =>
    "Could not connect to the endpoint URL: \"" ++ url.display ++ "\""
  | .noCredentials => "Unable to locate credentials"
  | .noRegion => "You must specify a region."

/-- The name of the kind of a failure. -/
def name : RemoteError → Text
  | .refused _ => "ClientError"
  | .unspecified => "BotoCoreError"
  | .unreachable _ => "EndpointConnectionError"
  | .noCredentials => "NoCredentialsError"
  | .noRegion => "NoRegionError"

end RemoteError

end Rendezvous
