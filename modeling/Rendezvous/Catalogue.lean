/-
  The words and numbers that clients rely on, listed under their names.
-/
import Rendezvous.Log.Note
import Rendezvous.Operation.Basic
import Rendezvous.Signal

namespace Rendezvous.Catalogue

/-- Texts as a list. -/
def texts (ts : List Text) : Value := .arr (ts.map .str)

/-- The statuses, and the media type (`HTTPConstants`). -/
def http : Object :=
  let status (name : Text) (s : Status) : Text × Value := (name, .int s.number)
  [status "OK" .ok, status "CREATED" .created, status "NO_CONTENT" .noContent,
   status "BAD_REQUEST" .badRequest, status "UNAUTHORIZED" .unauthorized,
   status "FORBIDDEN" .forbidden, status "NOT_FOUND" .notFound, status "CONFLICT" .conflict,
   status "TOO_MANY_REQUESTS" .tooManyRequests,
   status "INTERNAL_SERVER_ERROR" .internalServerError, status "BAD_GATEWAY" .badGateway,
   status "SERVICE_UNAVAILABLE" .serviceUnavailable, ("JSON", .str mediaType)]

/-- The widths of the fields (`FieldWidths`). -/
def widths : Object :=
  let width (name : Text) (f : Field) : Text × Value := (name, .int f.width)
  [width "NICKNAME" .nickname, width "ADDRESS" .address, width "WELCOME_MSG" .welcomeMessage,
   width "CONTACT_NAME" .contactName, width "CONTACT_ADDR" .contactAddress,
   width "SIGNAL_PAYLOAD" .payload]

/-- The kinds of signal, and the parts of their notifications (`SignalConstants`). -/
def signals : Object :=
  [("OFFER", .str SignalKind.offer.name), ("ANSWER", .str SignalKind.answer.name),
   ("ALL_KINDS", texts (SignalKind.all.map SignalKind.name)),
   ("OFFER_FIELDS", texts SignalKind.offer.fieldNames),
   ("ANSWER_FIELDS", texts SignalKind.answer.fieldNames)]

/-- The operations (`OperationConstants`). -/
def operations : Object :=
  let operation (name : Text) (o : Operation) : Text × Value := (name, .str o.name)
  [operation "OFFER_CHAT" .offerChat, operation "REGISTER" .register,
   operation "ANSWER_CHAT" .answerChat, operation "UPSERT_CONTACT" .upsertContact,
   operation "REMOVE_CONTACT" .removeContact, operation "GET_IDENTITY" .getIdentity,
   operation "GET_CONTACT" .getContact, operation "LIST_CONTACTS" .listContacts]

/-- The codes of failed responses (`ErrorCodes`). -/
def errorCodes : Object := ErrorCode.all.map fun code => (code.text, .str code.text)

/-- The fields that are never logged (`LoggingConstants`). -/
def logging : Object := [("REDACTED_FIELDS", texts Log.redactedFields)]

/-- The lists, by name. -/
def lists : List (Text × Object) :=
  [("HTTPConstants", http), ("FieldWidths", widths), ("SignalConstants", signals),
   ("OperationConstants", operations), ("ErrorCodes", errorCodes), ("LoggingConstants", logging)]

end Rendezvous.Catalogue
