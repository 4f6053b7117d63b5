/-
  What the service has to say in its log (`RegistryLogger`).

  Each kind of note fixes a level, a wording and fields.  Further fields may be
  added where a note is made; they go before the note's own, save for those that
  describe a failure.

  * `Note.entry` is the entry of a note;
  * `Note.entry?` refuses further fields named like the parts of an entry that
    the wording fixes.
-/
import Rendezvous.Log.Entry
import Rendezvous.Text.Case
import Rendezvous.Value.Access

namespace Rendezvous.Log

/-! ## What is kept out of the log -/

/-- The fields of events whose values are never logged (`REDACTED_FIELDS`). -/
def redactedFields : List Text :=
  ["offer", "answer", "welcome_msg", "name", "addr", "address", "password", "token", "secret",
   "authorization"]

/-- What is logged of a field of an event (`log_lambda_start`): nothing of a redacted one, a text
    or a number as it is, and the type of everything else. -/
def shownField (key : Text) (value : Value) : Value :=
  if redactedFields.contains key.foldWord then .str "[REDACTED]"
  else if value.isScalar then value
  else .str value.typeName

/-- What is logged of the fields of an event. -/
def shownFields (event : Object) : Object :=
  event.map fun (key, value) => (key, shownField key value)

/-! ## Notes -/

/-- What led to an error: its kind, its wording, and how it came about. -/
structure Cause where
  kind : Text
  message : Text
  trace : Text
  deriving Repr

namespace Cause

/-- What is told of how an error came about that is not being handled. -/
def noTrace : Text := "NoneType: None\n"

/-- A failure as a cause; `handling` tells that it is being handled. -/
def ofFailure (handling : Bool) (failure : Failure) : Cause :=
  { kind := failure.name
    message := failure.message
    trace :=
      if handling then
        "Traceback (most recent call last):\n" ++ failure.name ++ ": " ++ failure.message ++ "\n"
      else noTrace }

/-- A value as a cause, unless it is empty. -/
def ofValue? (v : Value) : Option Cause :=
  if v.isTruthy then some ⟨v.typeName, v.display, noTrace⟩ else none

/-- The fields that describe a cause. -/
def fields (cause : Cause) : Object :=
  [("error_type", .str cause.kind), ("error_message", .str cause.message),
   ("traceback", .str cause.trace)]

end Cause

/-- A note.  Whether something was a success is told by the truth of a value. -/
inductive Note where
  /-- a wording of its own (`debug`, `info`, `warning`) -/
  | plain (level : Level) (message : Value)
  /-- an error, possibly with its cause (`error`) -/
  | trouble (message : Value) (cause : Option Cause)
  /-- a function was called with an event, in a request (`log_lambda_start`) -/
  | started (function event request : Value)
  /-- a function ended, after so many milliseconds (`log_lambda_end`) -/
  | ended (function success : Value) (duration : Option Number)
  /-- an operation was carried out, for an identity unless that is empty
  (`log_service_operation`) -/
  | carriedOut (operation identity : Value)
  /-- a table was read or written (`log_database_operation`) -/
  | table (name operation success : Value)
  /-- a notification was sent (`log_notification`) -/
  | notification (kind bus success : Value)

/-- The level of a note that may tell of a success. -/
def levelOf (success : Value) : Level := if success.isTruthy then .info else .error

/-- A wording that depends on success. -/
def outcome (success : Value) (good bad : Text) : Text := if success.isTruthy then good else bad

/-- The duration that a value stands for; null is none. -/
def durationOf : Value → Except Failure (Option Number)
  | .null => .ok none
  | v => v.number.map some

namespace Note

/-- The level of a note. -/
def level : Note → Level
  | .plain level _ => level
  | .trouble _ _ => .error
  | .started _ _ _ | .carriedOut _ _ => .info
  | .ended _ success _ | .table _ _ success | .notification _ _ success => levelOf success

/-- The wording of a note. -/
def message : Note → Value
  | .plain _ message | .trouble message _ => message
  | .started function _ _ => .str ("Lambda function " ++ function.display ++ " started")
  | .ended function success _ =>
    .str ("Lambda function " ++ function.display ++ outcome success " completed" " failed")
  | .carriedOut operation _ => .str ("Service operation: " ++ operation.display)
  | .table name operation success =>
    .str ("Database " ++ operation.display ++ " on " ++ name.display ++
      outcome success " succeeded" " failed")
  | .notification kind bus success =>
    .str (kind.display ++ " notification on " ++ bus.display ++
      outcome success " delivered" " failed")

/-- The fields of a note. -/
def fields (extra : Object) : Note → Object
  | .plain _ _ | .trouble _ none => extra
  | .trouble _ (some cause) => Object.merge extra cause.fields
  | .started function event request =>
    let call : Object := [("function_name", function), ("request_id", request)]
    match event with
    | .obj fields =>
      call ++ ([("event_keys", .arr ((Object.keys fields).map .str)),
        ("event", .obj (shownFields fields))] : Object)
    | _ => call ++ ([("event_keys", .str "non-dict")] : Object)
  | .ended function success duration =>
    let call : Object := [("function_name", function), ("success", success)]
    let timed : Object := match duration with
      | some number => [("duration_ms", Value.ofNumber number.roundHundredths)]
      | none => []
    Object.merge (call ++ timed) extra
  | .carriedOut operation identity =>
    let owner : Object := if identity.isTruthy then [("identity", identity)] else []
    Object.merge (("operation", operation) :: owner) extra
  | .table name operation success =>
    Object.merge
      [("table_name", name), ("operation", operation), ("success", success)] extra
  | .notification kind bus success =>
    Object.merge [("kind", kind), ("event_bus", bus), ("success", success)] extra

/-- The entry of a note with further fields. -/
def entry (source : Value) (extra : Object) (note : Note) : Entry :=
  ⟨source, note.level, note.message, note.fields extra⟩

/-- The names that no further field may have. -/
def reserved : List Text := ["self", "level", "message"]

/-- The entry of a note with further fields, where their names allow it.  A debug
    note that is not written refuses the level no longer. -/
def entry? (journal : Journal) (source : Value) (extra : Object) (note : Note) :
    Except Failure Entry :=
  let silent := note.level = .debug && !journal.debug
  if (Object.keys extra).any fun key => reserved.contains key && !(silent && key = "level") then
    .error .wrongType
  else .ok (note.entry source extra)

end Note

end Rendezvous.Log
