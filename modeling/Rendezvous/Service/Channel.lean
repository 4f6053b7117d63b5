/-
  The channel (`SignalChannel`) relays offers and answers as notifications.

  It keeps nothing and does not ask whether the recipient is registered.  A
  channel makes its transport when it sends the first signal; a transport on a
  bus opens its client then, too.

  * `offer` and `answer` send a signal, `sendDraft` one whose parts may have any type;
  * `Transport.publish` delivers one.
-/
import Rendezvous.Config.Basic
import Rendezvous.Diagnosis
import Rendezvous.Signal

namespace Rendezvous

namespace Transport

/-- The source of the channel's log entries. -/
def logSource : Text := "signal-channel"

/-- A transport on a bus (`EventBridgeTransport`).  What is not given comes from the settings;
    there has to be a bus. -/
def onBus (site : Site) (bus source : Value) : Act Transport := do
  let env ← Act.environment
  let bus := bus.orElse
    (.str ((env.setting? "event-bus-name").getD (Config.defaultBus site.environment)))
  let source := source.orElse (.str ((env.setting? "event-source").getD Config.defaultSource))
  if !bus.isTruthy then
    Act.fail (.service (.configuration (.str "Event bus name is not configured")
      (.str "event-bus-name") .null))
  return .bus bus source false

/-- The entry of a signal on a bus; who sends it and to whom has to be plain JSON. -/
def entryOf (bus source : Value) (s : Signal) : Except Failure Object :=
  match Json.print? (.obj s.toEvent) with
  | some detail =>
    .ok [("Source", source), ("DetailType", .str s.kind.name), ("Detail", .str detail),
      ("EventBusName", bus)]
  | none => .error .wrongType

/-- A delivery that failed. -/
def undelivered (message : Text) (bus : Value) (s : Signal) (cause : Value) : Failure :=
  .service (.delivery (.str message) (.str s.kind.name) bus cause)

/-- The first entry of a reply, empty where the reply has none. -/
def firstEntry (reply : Object) : Except Failure Value :=
  match (Object.fieldOrNull "Entries" reply).orElse (.arr [.empty]) with
  | .arr (entry :: _) => .ok entry
  | .str _ | .bytes _ => .error .noField
  | .obj _ => .error (.defect .missingKey "0")
  | _ => .error .wrongType

/-- Logs a notification about a signal. -/
def logSent (bus : Value) (s : Signal) (success : Bool) (extra : Object) : Act Unit :=
  Act.note logSource (.notification (.str s.kind.name) bus (.bool success)) extra

/-- Reads the reply of a bus: an entry may have been rejected. -/
def readReply (bus : Value) (s : Signal) (reply : Value) : Act Unit := do
  let fields ← reply.fields
  if ((Object.field? "FailedEntryCount" fields).getD (.int 0)).isTruthy then
    let entry ← firstEntry fields
    let code ← entry.fieldOrNull "ErrorCode"
    let message ← entry.fieldOrNull "ErrorMessage"
    logSent bus s false [("error_code", code), ("error", message)]
    Act.fail (undelivered (s.kind.name ++ " notification was rejected") bus s message)

/-- Opens the client of a bus, if it is not open (`EventBridgeTransport.client`). -/
def connect (slot : Nat) (bus source : Value) (connected : Bool) : Act Unit := do
  if !connected then
    let env ← Act.environment
    .ask (.openClient "events" env.region) .done
    .ask (.keepTransport slot (.bus bus source true)) .done

/-- Sends a signal over a bus (`EventBridgeTransport.publish`). -/
def send (slot : Nat) (bus source : Value) (connected : Bool) (s : Signal) : Act Unit := do
  let entry ← entryOf bus source s
  connect slot bus source connected
  let sent : Act Value := .ask (.putEvent entry) Act.ofExcept
  match ← sent.attempt with
  | .ok reply =>
    readReply bus s reply
    logSent bus s true [("sender", s.sender), ("recipient", s.recipient)]
  | .error (.remote e) =>
    logSent bus s false [("error", .str e.message)]
    Act.fail (undelivered ("Failed to publish " ++ s.kind.name ++ " notification") bus s
      (.str e.message))
  | .error failure => Act.fail failure

/-- How a transport without a way to deliver fails. -/
def undefinedFailure : Failure := .defect .unimplemented []

/-- Delivers a signal for the channel of a slot (`NotificationTransport.publish`). -/
def publish (slot : Nat) (s : Signal) : Transport → Act Unit
  | .bus name source connected => send slot name source connected s
  | .recording none => .ask (.record s.toEvent) .done
  | .recording (some failure) => Act.fail failure
  | .undefined => Act.fail undefinedFailure

/-- How a transport fails at a draft that is no signal: it may fail before it looks at it. -/
def failureAt (unreadable : Failure) : Transport → Failure
  | .recording (some failure) => failure
  | .undefined => undefinedFailure
  | .bus _ _ _ | .recording none => unreadable

end Transport

namespace Channel

/-- The transport of a channel, made when it is first asked for (`SignalChannel.transport`). -/
def transport (c : Channel) : Act Transport := do
  let kept : Act (Option Transport) := .ask (.transport c.slot) .done
  match ← kept with
  | some transport => return transport
  | none =>
    let transport ← Transport.onBus c.site .null .null
    .ask (.keepTransport c.slot transport) .done
    return transport

/-- The operation of sending a signal of a kind. -/
def operationOf : SignalKind → Text
  | .offer => "offer_chat"
  | .answer => "answer_chat"

/-- Delivers a signal and tells what operation that was. -/
def relay (c : Channel) (s : Signal) : Act Signal := do
  (← c.transport).publish c.slot s
  Act.note Transport.logSource (.carriedOut (.str (operationOf s.kind)) s.sender)
    [("recipient", s.recipient)]
  return s

/-- Sends an offer from a caller (`SignalChannel.offer`). -/
def offer (c : Channel) (caller : Value) (welcome : Option Bytes) (payload : Bytes)
    (recipient : Value) : Act Signal := do
  c.relay (← Signal.offer caller welcome payload recipient)

/-- Sends an answer from a caller (`SignalChannel.answer`). -/
def answer (c : Channel) (caller : Value) (payload : Bytes) (recipient : Value) : Act Signal := do
  c.relay (← Signal.answer caller payload recipient)

/-- Sends a message whose parts may have any type: their sizes are checked first, and
    the transport finds out whether they are bytes. -/
def sendDraft (c : Channel) (d : Draft) : Act Signal := do
  match (← d.check).toSignal with
  | .ok s => c.relay s
  | .error unreadable => Act.fail ((← c.transport).failureAt unreadable)

end Channel

end Rendezvous
