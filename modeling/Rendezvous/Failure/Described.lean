/-
  Failures from the names of their kinds and what they are made with.

  * `ServiceError.describe` makes a failure of the service from named arguments;
  * `Failure.describe` makes one of another kind from a message, if one is given.
-/
import Rendezvous.Arguments

namespace Rendezvous

namespace Failure

/-- What makes a failure of a kind, as messages name it. -/
def makerOf (kind : Text) : Text := kind ++ ".__init__"

/-- The failure that is being made; it stands before all arguments. -/
def made : Parameter := .required "self"

end Failure

namespace ServiceError

/-- A parameter that is null where it is left out. -/
def nullable (name : Text) : Parameter := .optional name .null

/-- A message and attributes that may be left out. -/
def worded (attributes : List Text) : List Parameter :=
  .required "message" :: attributes.map nullable

/-- The parameters of each kind, and the failure that their arguments make. -/
def kinds : List (Text × List Parameter × ((Text → Value) → ServiceError)) :=
  [("RegistryServiceError", worded ["error_code", "details"], fun a =>
      .general (a "message") (a "error_code") (a "details")),
   ("ValidationError", worded ["field", "value", "hints"], fun a =>
      .validation (a "message") (a "field") (a "value") (a "hints")),
   ("AuthenticationError", [.optional "message" unauthenticated.message], fun a =>
      .authentication (a "message")),
   ("IdentityAlreadyBoundError", [.required "identity"], fun a => .identityTaken (a "identity")),
   ("NicknameAlreadyBoundError", [.required "nickname"], fun a => .nicknameTaken (a "nickname")),
   ("DynamoDBError",
      worded ["operation", "table", "original_error"] ++ [.optional "retryable" (.bool false)],
      fun a => .storage (a "message") (a "operation") (a "table") (a "original_error")
        (a "retryable")),
   ("NotificationDeliveryError", worded ["kind", "event_bus", "original_error"], fun a =>
      .delivery (a "message") (a "kind") (a "event_bus") (a "original_error")),
   ("ConfigurationError", worded ["config_key", "config_source"], fun a =>
      .configuration (a "message") (a "config_key") (a "config_source"))]

/-- The failure of a kind that named arguments make; none where there is no such kind. -/
def describe (kind : Text) (arguments : Object) : Option (Except Failure ServiceError) :=
  (kinds.lookup kind).map fun (parameters, make) =>
    (Arguments.bindAll (Failure.makerOf kind) (Failure.made :: parameters)
        ⟨[.null], arguments⟩).map fun bound =>
      make fun name => Object.fieldOrNull name bound

end ServiceError

namespace Failure

/-- A failure of the table library, with a message if one is given that is not null. -/
def ofTable (kind : TableFault) (message : Option Value) : Except Failure Failure :=
  match kind, message with
  | .tableDoesNotExist, none => .error (.misfit (makerOf kind.name) (.missing "table_name"))
  | .tableDoesNotExist, some name => .ok (.table kind (TableFault.missingTable name.display))
  | kind, none | kind, some .null =>
    match kind.defaultMessage? with
    | some text => .ok (.table kind text)
    | none => .error (.noAttribute ("'" ++ kind.name ++ "' object") "msg")
  | kind, some message => .ok (.table kind message.display)

/-- The ways to make each kind of failure of a remote call that is no refusal. -/
def remoteKinds : List (Text × (Object → Except Failure RemoteError)) :=
  [(RemoteError.unspecified.name, fun _ => .ok .unspecified),
   (RemoteError.noCredentials.name, fun _ => .ok .noCredentials),
   (RemoteError.noRegion.name, fun _ => .ok .noRegion),
   ((RemoteError.unreachable .null).name, fun arguments =>
      (Value.fieldAt "endpoint_url" (.obj arguments)).map .unreachable)]

/-- The failure of a remote call that named arguments make, of whatever names; none where
    there is no such kind. -/
def ofRemote (kind : Text) (arguments : Object) : Option (Except Failure RemoteError) :=
  (remoteKinds.lookup kind).map fun make =>
    (Arguments.bind (makerOf RemoteError.unspecified.name) [made] ⟨[.null], arguments⟩).bind
      fun (_, arguments) => make arguments

/-- The failure of a kind without attributes. -/
def ofDefect (kind : Text) (message : Option Value) : Except Failure Failure :=
  let text := (message.map Value.display).getD []
  if kind = (Unusable.value []).name then .ok (.badValue text)
  else if kind = Defect.missingKey.name then
    .ok (.defect .missingKey ((message.map Value.inspect).getD []))
  else
    match [Defect.runtime, .wrongType, .unimplemented].find? fun d => d.name = kind with
    | some d => .ok (.defect d text)
    | none => .error .wrongType

/-- The failure of a kind, made with named arguments and a message. -/
def describe (kind : Text) (arguments : Object) (message : Option Value) :
    Except Failure Failure :=
  match ServiceError.describe kind arguments with
  | some made => made.map .service
  | none =>
    match ofRemote kind arguments with
    | some made => made.map .remote
    | none =>
      match TableFault.all.find? fun fault => fault.name = kind with
      | some fault => ofTable fault message
      | none => ofDefect kind message

end Failure

end Rendezvous
