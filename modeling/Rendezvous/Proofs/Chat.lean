/-
  Offers and answers are relayed once, and nothing of them is lost.

  * `Request.Asks`: what a request for a signal has to have; `SignalKind.run_eq`: the functions for
    chats read the signal that is asked for, and send it;
  * `Signal.IsTold`: a notification from which a signal can be read back;
  * `Signal.parse_print_toEvent`: what is read from the text that stands on the bus, which is the
    notification itself unless halves of surrogate pairs stand side by side in it
    (`Signal.joined_toEvent_iff`);
  * `SignalKind.relays_once`: what happens to every event of a chat;
    `SignalKind.halves_relayed_joined`: one of them in which halves stand side by side.
-/
import Rendezvous.Proofs.Atomic
import Rendezvous.Proofs.Delivery
import Rendezvous.Proofs.Relay
import Rendezvous.Proofs.Wholeness
import Rendezvous.Proofs.Wire

namespace Rendezvous

open Act Scene Transport

/-! ## Offers and answers -/

namespace Field

/-- The code points of the wire form of bytes are hexadecimal digits, and the mark before them. -/
theorem mem_encodeHex {bytes : Bytes} {c : CodePoint} (h : c ∈ encodeHex bytes) :
    c = 'x' ∨ ∃ n < 16, c = CodePoint.hexDigit n := by
  rcases List.mem_append.1 h with h | h
  · have h : c ∈ [CodePoint.ofChar '0', CodePoint.ofChar 'x'] := h
    rcases List.mem_pair.1 h with rfl | rfl
    · exact Or.inr ⟨0, by omega, rfl⟩
    · exact Or.inl rfl
  · obtain ⟨b, -, h⟩ := List.mem_flatMap.1 h
    have hb : b.toNat < 256 := b.toNat_lt
    rw [Hex.pair, List.mem_pair] at h
    rcases h with rfl | rfl
    · exact Or.inr ⟨_, by omega, rfl⟩
    · exact Or.inr ⟨_, by omega, rfl⟩

theorem isScalar_encodeHex (bytes : Bytes) : (encodeHex bytes).IsScalar := by
  have hdigits : ∀ n < 16, (CodePoint.hexDigit n).isSurrogate = false := by decide
  intro c hc
  rcases mem_encodeHex hc with rfl | ⟨n, hn, rfl⟩
  · rfl
  · exact hdigits n hn

/-- The wire form of bytes of the width of a field is read back. -/
theorem decodeHex_encodeHex {width : Nat} (label : Value) {bytes : Bytes}
    (h : bytes.length = width) : decodeHex width label (.str (encodeHex bytes)) = .ok bytes := by
  rw [(isWritten_encodeHex bytes).decodeHex (Hex.denotes_encode bytes) (by omega),
    Bytes.fill_of_length_eq h]

end Field

namespace SignalKind

/-- The function that sends the signals of a kind. -/
def function : SignalKind → Function
  | .offer => Function.chatOffer
  | .answer => Function.chatAnswer

/-- The operation of sending a signal of a kind. -/
def operation : SignalKind → Operation
  | .offer => .offerChat
  | .answer => .answerChat

/-- The name of the field with the payload of a signal, in requests and in notifications. -/
def payloadName : SignalKind → Text
  | .offer => "offer"
  | .answer => "answer"

/-- The name of the part of a notification that tells whom it is for. -/
def recipientName : SignalKind → Text
  | .offer => "offered_to"
  | .answer => "answer_to"

/-- The parts of a notification, in their order. -/
def partNames : SignalKind → List Text
  | .offer => ["offer", "offered_by", "offered_to", "welcome_msg"]
  | .answer => ["answer", "answer_from", "answer_to"]

/-- What kind of notification is put on the bus. -/
def detailType : SignalKind → Text
  | .offer => "Offer"
  | .answer => "Answer"

/-- The response that reports a signal that was sent, with the notification of it. -/
def report (kind : SignalKind) (now : Instant) (detail : Object) : Value :=
  let names : Text × Text := match kind with
    | .offer => ("offer_chat", "chat-offer")
    | .answer => ("answer_chat", "chat-answer")
  .obj [("success", .bool true),
    ("data", .obj [("event", .str kind.detailType), ("detail", .obj detail),
      ("operation", .str names.1)]),
    ("metadata", .obj [("timestamp", .str now.isoText), ("function_name", .str names.2)])]

end SignalKind

/-- A request asks for a signal to a recipient, which it names as it has to be named: its payload
    and its welcome message, if it needs one, can be read, and it is from the caller. -/
structure Request.Asks (request : Request) (recipient : Text) (signal : Signal) : Prop where
  payload : Field.bytesIn request.body signal.kind.payloadName = .ok signal.payload
  welcome : match signal.kind with
    | .offer => ∃ welcome, Field.bytesIn request.body "welcome_msg" = .ok welcome ∧
        signal.welcome = some welcome
    | .answer => signal.welcome = none
  named : Object.field? "to" request.body = some (.str recipient)
  valid : Identity.validate (.str "to") (.str recipient) = .ok recipient
  recipient : signal.recipient = .str recipient
  sender : signal.sender = .str request.caller

namespace SignalKind

/-- The signal of a kind that a request asks for. -/
def read (request : Request) : SignalKind → Except Failure Signal
  | .offer => do
    let welcome ← Field.bytesIn request.body "welcome_msg"
    let payload ← Field.bytesIn request.body "offer"
    let recipient ← Function.recipientOf request
    return ⟨.offer, payload, .str request.caller, .str recipient, some welcome⟩
  | .answer => do
    let payload ← Field.bytesIn request.body "answer"
    let recipient ← Function.recipientOf request
    return ⟨.answer, payload, .str request.caller, .str recipient, none⟩

/-- Sends a signal of a kind, and tells of it. -/
def send (kind : SignalKind) (signal : Signal) : Act Value :=
  (Act.service "signal_channel").bind fun service =>
    (Act.ofExcept service.asChannel).bind fun channel =>
      ((Act.ofExcept signal.check).bind fun s => channel.relay s).bind fun s =>
        Function.success kind.function.name kind.operation (Function.sent s) []

theorem run_eq (kind : SignalKind) (request : Request) :
    kind.function.run request = (Act.ofExcept (kind.read request)).bind kind.send := by
  cases kind with
  | offer =>
    simp only [function, Function.chatOffer, read, bind_eq, liftM_eq]
    cases Field.bytesIn request.body "welcome_msg" with
    | error e => rfl
    | ok welcome =>
    cases Field.bytesIn request.body "offer" with
    | error e => rfl
    | ok payload =>
    cases Function.recipientOf request with
    | error e => rfl
    | ok recipient => rfl
  | answer =>
    simp only [function, Function.chatAnswer, read, bind_eq, liftM_eq]
    cases Field.bytesIn request.body "answer" with
    | error e => rfl
    | ok payload =>
    cases Function.recipientOf request with
    | error e => rfl
    | ok recipient => rfl

theorem eq_of_validate {label : Value} {t t' : Text}
    (h : Identity.validate label (.str t) = .ok t') : t' = t := by
  simp only [Identity.validate] at h
  split_ifs at h
  exact (Except.ok.inj h).symm

theorem recipientOf_eq_ok_iff {request : Request} {recipient : Text} :
    Function.recipientOf request = .ok recipient ↔
      Object.field? "to" request.body = some (.str recipient) ∧
        Identity.validate (.str "to") (.str recipient) = .ok recipient := by
  simp only [Function.recipientOf, Value.fieldAt, Value.fields, Bind.bind, Except.bind]
  cases hto : Object.field? "to" request.body with
  | none => simp
  | some given =>
    cases given with
    | str t =>
      simp only [Option.some.injEq, Value.str.injEq]
      constructor
      · intro h
        obtain rfl := eq_of_validate h
        exact ⟨rfl, h⟩
      · rintro ⟨rfl, h⟩
        exact h
    | _ => simp [Identity.validate]

theorem read_eq_ok_iff {kind : SignalKind} {request : Request} {signal : Signal} :
    kind.read request = .ok signal ↔
      signal.kind = kind ∧ ∃ recipient, request.Asks recipient signal := by
  constructor
  · intro h
    cases kind with
    | offer =>
      obtain ⟨welcome, hwelcome, h⟩ := Except.bind_eq_ok.1 h
      obtain ⟨payload, hpayload, h⟩ := Except.bind_eq_ok.1 h
      obtain ⟨recipient, hrecipient, h⟩ := Except.bind_eq_ok.1 h
      obtain rfl := Except.ok.inj h
      obtain ⟨hnamed, hvalid⟩ := recipientOf_eq_ok_iff.1 hrecipient
      exact ⟨rfl, recipient, hpayload, ⟨welcome, hwelcome, rfl⟩, hnamed, hvalid, rfl, rfl⟩
    | answer =>
      obtain ⟨payload, hpayload, h⟩ := Except.bind_eq_ok.1 h
      obtain ⟨recipient, hrecipient, h⟩ := Except.bind_eq_ok.1 h
      obtain rfl := Except.ok.inj h
      obtain ⟨hnamed, hvalid⟩ := recipientOf_eq_ok_iff.1 hrecipient
      exact ⟨rfl, recipient, hpayload, rfl, hnamed, hvalid, rfl, rfl⟩
  · rintro ⟨rfl, recipient, hpayload, hwelcome, hnamed, hvalid, hrecipient, hsender⟩
    have hto := recipientOf_eq_ok_iff.2 ⟨hnamed, hvalid⟩
    obtain ⟨kind, payload, sender, receiver, welcome⟩ := signal
    dsimp only at hpayload hwelcome hrecipient hsender ⊢
    rw [hrecipient, hsender]
    cases kind with
    | offer =>
      obtain ⟨text, hread, rfl⟩ := hwelcome
      exact Except.bind_eq_ok.2 ⟨text, hread, Except.bind_eq_ok.2 ⟨payload, hpayload,
        Except.bind_eq_ok.2 ⟨recipient, hto, rfl⟩⟩⟩
    | answer =>
      obtain rfl : welcome = none := hwelcome
      exact Except.bind_eq_ok.2 ⟨payload, hpayload, Except.bind_eq_ok.2 ⟨recipient, hto, rfl⟩⟩

end SignalKind

/-! ## Notifications -/

namespace Signal
variable {request : Request} {recipient : Text} {signal : Signal}

/-- A notification tells a signal from a caller to a recipient: it has the parts of its kind, in
    their order, and the bytes that stand in it are read back as those of the signal. -/
structure IsTold (signal : Signal) (caller recipient : Text) (o : Object) : Prop where
  names : o.keys = signal.kind.partNames
  sender : o.field? signal.kind.senderName = some (.str caller)
  recipient : o.field? signal.kind.recipientName = some (.str recipient)
  payload : ∃ t, o.field? signal.kind.payloadName = some (.str t) ∧
    Field.decodeHex 2048 .null (.str t) = .ok signal.payload
  welcome : ∀ welcome, signal.welcome = some welcome → ∃ t,
    o.field? "welcome_msg" = some (.str t) ∧ Field.decodeHex 300 .null (.str t) = .ok welcome

/-- The parts of a signal that is asked for have their widths. -/
theorem sizes_of_asks (h : request.Asks recipient signal) :
    signal.payload.length = Field.payload.width ∧
      ∀ welcome, signal.welcome = some welcome → welcome.length = Field.welcomeMessage.width := by
  obtain ⟨hpayload, hwelcome, -⟩ := h
  constructor
  · have hname : signal.kind.payloadName ≠ "nickname" := by cases signal.kind <;> decide
    have hfield : Field.wireFields.lookup signal.kind.payloadName = some .payload := by
      cases signal.kind <;> rfl
    exact Field.length_of_bytesIn hname hfield hpayload
  · intro welcome hw
    split at hwelcome
    · obtain ⟨read, hread, hsome⟩ := hwelcome
      obtain rfl := Option.some.inj (hsome.symm.trans hw)
      have hname : Text.ofString "welcome_msg" ≠ Text.ofString "nickname" := by decide
      exact Field.length_of_bytesIn hname rfl hread
    · rw [hwelcome] at hw
      cases hw

theorem check_of_asks (h : request.Asks recipient signal) : signal.check = .ok signal := by
  obtain ⟨hp, hw⟩ := sizes_of_asks h
  have hwelcome := h.welcome
  obtain ⟨kind, payload, sender, receiver, welcome⟩ := signal
  cases kind with
  | offer =>
    obtain ⟨text, -, rfl⟩ := hwelcome
    simp [check, hp, hw text rfl]
  | answer =>
    obtain rfl : welcome = none := hwelcome
    simp [check, hp]

theorem isTold_toEvent (h : request.Asks recipient signal) :
    signal.IsTold request.caller recipient signal.toEvent := by
  obtain ⟨hp, hw⟩ := sizes_of_asks h
  obtain ⟨kind, payload, sender, receiver, welcome⟩ := signal
  obtain rfl : receiver = .str recipient := h.recipient
  obtain rfl : sender = .str request.caller := h.sender
  cases kind with
  | offer =>
    refine ⟨rfl, rfl, rfl, ⟨_, rfl, Field.decodeHex_encodeHex _ hp⟩, ?_⟩
    rintro text rfl
    exact ⟨_, rfl, Field.decodeHex_encodeHex _ (hw text rfl)⟩
  | answer =>
    refine ⟨rfl, rfl, rfl, ⟨_, rfl, Field.decodeHex_encodeHex _ hp⟩, ?_⟩
    have hnone : welcome = none := h.welcome
    intro text htext
    rw [hnone] at htext
    cases htext

theorem joined_encodeHex (bytes : Bytes) :
    (Field.encodeHex bytes).joined = Field.encodeHex bytes :=
  Text.joined_of_isWhole (Field.isScalar_encodeHex bytes).isWhole

/-- A notification is read back from its text, with the halves of surrogate pairs joined. -/
theorem parse_print_toEvent (h : request.Asks recipient signal) :
    Json.parse (Json.print (.obj signal.toEvent)) =
      .ok (.obj (Object.joined signal.toEvent)) := by
  obtain ⟨kind, payload, sender, receiver, welcome⟩ := signal
  obtain rfl : receiver = .str recipient := h.recipient
  obtain rfl : sender = .str request.caller := h.sender
  cases kind with
  | offer =>
    exact Json.parse_print_texts [("offer", Field.encodeHex payload),
      ("offered_by", request.caller), ("offered_to", recipient),
      ("welcome_msg", Field.encodeHex (welcome.getD []))]
  | answer =>
    exact Json.parse_print_texts [("answer", Field.encodeHex payload),
      ("answer_from", request.caller), ("answer_to", recipient)]

/-- Nothing is joined just where no halves stand side by side in the names. -/
theorem joined_toEvent_iff (h : request.Asks recipient signal) :
    Object.joined signal.toEvent = signal.toEvent ↔
      request.caller.IsWhole ∧ recipient.IsWhole := by
  rw [← Text.joined_eq_self_iff, ← Text.joined_eq_self_iff]
  obtain ⟨kind, payload, sender, receiver, welcome⟩ := signal
  obtain rfl : receiver = .str recipient := h.recipient
  obtain rfl : sender = .str request.caller := h.sender
  cases kind with
  | offer =>
    have hread : Object.joined (Signal.toEvent
        ⟨.offer, payload, .str request.caller, .str recipient, welcome⟩) =
        ([("offer", .str (Field.encodeHex payload).joined),
          ("offered_by", .str request.caller.joined), ("offered_to", .str recipient.joined),
          ("welcome_msg", .str (Field.encodeHex (welcome.getD [])).joined)] : Object) := rfl
    rw [hread, joined_encodeHex, joined_encodeHex]
    simp [toEvent, parts, SignalKind.fieldNames]
  | answer =>
    have hread : Object.joined (Signal.toEvent
        ⟨.answer, payload, .str request.caller, .str recipient, welcome⟩) =
        ([("answer", .str (Field.encodeHex payload).joined),
          ("answer_from", .str request.caller.joined),
          ("answer_to", .str recipient.joined)] : Object) := rfl
    rw [hread, joined_encodeHex]
    simp [toEvent, parts, SignalKind.fieldNames]

/-- There are none in what is read of a legible event. -/
theorem whole_of_asks {event : Value} (hlegible : Request.IsLegible event)
    (hr : Request.ofEvent event = .ok request) (h : request.Asks recipient signal) :
    request.caller.IsWhole ∧ recipient.IsWhole := by
  obtain ⟨hcaller, hbody⟩ := Request.ofEvent_whole hlegible hr
  refine ⟨hcaller, ?_⟩
  cases hbody with
  | obj hbody =>
    cases Object.Texts.field? hbody h.named with
    | str hrecipient => exact hrecipient

end Signal

/-! ## Calls -/

/-- An event is answered with the response to a request that was carried out. -/
def Handler.Succeeds (event : Value) (x : Except Failure Value) : Prop := ∃ answer response,
  x = .ok answer ∧ Response.Delivered event response answer ∧ Response.succeeded response = true

/-- What delivers a failed response is no success. -/
theorem Handler.not_succeeds {event response : Value} {x : Except Failure Value}
    (h : ∀ answer, x = .ok answer → deliver event response = .ok answer)
    (hfailed : Response.succeeded response = false) : ¬Succeeds event x := by
  rintro ⟨answer, other, hx, hdelivered, hs⟩
  have hdeliver := (Response.delivered_iff hs).1 hdelivered
  rcases Function.status_of_deliver hdeliver (h answer hx) with rfl | hstatus
  · rw [hfailed] at hs
    cases hs
  · rw [← Response.status_eq_ok_iff, hstatus, Response.status_eq_ok_iff, hfailed] at hs
    cases hs

namespace Function
variable {f : Function} {event context : Value} {made : List Query} {Q : Value → Prop} {s : Scene}

/-- The scene where the work on an event begins: the stopwatch was read, and the event logged. -/
def begun (s : Scene) (event context : Value) : Scene :=
  (s.after .stopwatch).after (.log ((Log.Note.started (.str handlerName) event
    (Handler.requestId context)).entry (.str mainSource) []))

theorem begun_rest (s : Scene) (event context : Value) :
    (begun s event context).world.container = s.world.container ∧
      (begun s event context).world.transports = s.world.transports ∧
      (begun s event context).world.env = s.world.env := by
  have hworld : (begun s event context).world = s.world.readStopwatch.2.log ((Log.Note.started
    (.str handlerName) event (Handler.requestId context)).entry (.str mainSource) []) := rfl
  rw [hworld, World.log, World.readStopwatch]
  split <;> exact ⟨rfl, rfl, rfl⟩

theorem silent_begun (s : Scene) (event context : Value) : s.Silent (begun s event context) :=
  (Silent.after rfl).trans (Silent.after rfl)

/-- A call makes the calls of its answer, and delivers the response if it can. -/
theorem invoke_ensures_actual (hs : s.world.IsTimed)
    (h : (f.handler.answer event).Ensures actual (fun x s' => (begun s event context).Makes made s' ∧
      ∃ response, x = .ok response ∧ Q response) (begun s event context)) :
    (f.invoke event context).Ensures actual (fun x s' => s.Makes made s' ∧ ∃ response, Q response ∧
      (∀ answer, x = .ok answer → Handler.deliver event response = .ok answer) ∧
      (Response.succeeded response = true → x = Handler.deliver event response)) s := by
  have hbegun := silent_begun s event context
  obtain ⟨start, hstart⟩ := hs.readStopwatch.1
  have hread : (s.world.reply .stopwatch).1 = .float start := hstart
  rw [invoke_eq]
  refine ensures_ask_actual (ensures_ask_actual ?_)
  rw [hread]
  simp only [served, bind_assoc, done_bind]
  refine h.bind ?_ ?_
  · rintro response s₁ ⟨h1, response', hx, hQ⟩
    obtain rfl := Except.ok.inj hx
    cases hsucceeded : Response.succeeded response with
    | true =>
      have htimed := h1.timed (hbegun.timed hs)
      refine (Handler.logEnd_ensures htimed handlerName start hsucceeded).bind ?_ ?_
      · rintro _ s₂ ⟨-, h2⟩
        rw [ensures_ofExcept]
        exact ⟨(hbegun.makes h1).silent h2, response, hQ, fun _ => id, fun _ => rfl⟩
      · rintro e s₂ ⟨he, -⟩
        cases he
    | false =>
      have hpose := Handler.logEnd_poses Query.hasQuiet_not_isCall.hasIdle handlerName
        (.float start) response
      refine (ensures_of_poses hpose).bind ?_ ?_
      · intro _ s₂ h2
        rw [ensures_ofExcept]
        exact ⟨(hbegun.makes h1).silent h2, response, hQ, fun _ => id, fun _ => rfl⟩
      · intro e s₂ h2
        refine ⟨(hbegun.makes h1).silent h2, response, hQ, fun answer he => ?_, fun hyes => ?_⟩
        · cases he
        · rw [hsucceeded] at hyes
          cases hyes
  · rintro e s₁ ⟨-, response, he, -⟩
    cases he

end Function

namespace SignalKind
variable {kind : SignalKind} {request : Request} {recipient : Text} {signal : Signal}
  {bus source event context : Value} {s : Scene}

/-- The functions report what they have sent. -/
theorem success_eq_report (now : Instant) (signal : Signal) :
    Response.success now (.obj (Object.put "operation" (.str signal.kind.operation.name)
      (Function.sent signal))) [] (.str signal.kind.function.name) =
      report signal.kind now signal.toEvent := by
  obtain ⟨kind, payload, sender, recipient, welcome⟩ := signal
  cases kind <;> rfl

theorem isPlain_toEvent (h : request.Asks recipient signal) :
    Json.isPlain (.obj signal.toEvent) = true := by
  refine Signal.isPlain_toEvent ?_ ?_
  · rw [h.sender]
    rfl
  · rw [h.recipient]
    rfl

theorem isWritable_report (now : Instant) (h : request.Asks recipient signal) :
    Response.IsWritable (report signal.kind now signal.toEvent) := by
  rw [← success_eq_report]
  refine Response.isWritable_success now ?_ rfl rfl
  rw [Json.isPlain_obj]
  refine Json.isPlain_obj.1 (Json.isPlain_put ?_ rfl)
  rw [Json.isPlain_obj]
  simpa [Function.sent] using ⟨rfl, isPlain_toEvent h⟩

/-- A signal that is asked for is sent once, and reported if the bus accepts it. -/
theorem send_ensures (hw : s.world.SendsOver bus source) (h : request.Asks recipient signal) :
    (signal.kind.send signal).Ensures actual (fun x s' =>
      s.Makes [.putEvent (signal.entry bus source)] s' ∧
        Verdict s.world.nextReply (report signal.kind s.world.clock signal.toEvent) x) s := by
  obtain ⟨n, c, hresolve, hc⟩ := hw
  unfold send
  refine ensures_ask_actual ?_
  let s₁ := s.after (.service (.str "signal_channel"))
  have hservice : (s.world.reply (.service (.str "signal_channel"))).1 = .ok (.channel c) := by
    have hreply : (s.world.reply (.service (.str "signal_channel"))).1 =
        (s.world.container.resolve (.str "signal_channel")).1.map (·.2) := rfl
    rw [hreply, hresolve]
    rfl
  have hc : c.SendsOver bus source s₁.world := by
    cases hc with
    | kept hkept => exact .kept hkept
    | made hnone hbus htruthy hsource => exact .made hnone hbus htruthy hsource
  have h1 : s.Silent s₁ := Silent.after rfl
  rw [hservice]
  simp only [ofExcept_ok, done_bind, Service.asChannel, Signal.check_of_asks h]
  have hrelay := c.relay_ensures hc (isPlain_toEvent h)
  have hnext : s₁.world.nextReply = s.world.nextReply := by
    rw [World.nextReply, h1.replies, World.nextReply]
  rw [hnext] at hrelay
  refine (ensures_verdict_bind hrelay fun s₂ h2 => ?_).mono fun x s₂ h2 => ⟨h1.makes h2.1, h2.2⟩
  refine ensures_ask_actual ⟨?_, Silent.after rfl⟩
  rw [← h1.clock, ← h2.clock, ← success_eq_report]
  rfl

/-- A call that asks for a signal is answered after one entry was put on the bus: with the report of
    it, or with a failure, as the bus decides. -/
theorem answer_asked (hw : s.world.SendsOver bus source)
    (haccept : Request.accept (Request.require signal.kind.function.required) event = .ok request)
    (h : request.Asks recipient signal) :
    (signal.kind.function.handler.answer event).Ensures actual (fun x s' =>
      s.Makes [.putEvent (signal.entry bus source)] s' ∧ ∃ response, x = .ok response ∧
        (accepts s.world.nextReply = true →
          response = report signal.kind s.world.clock signal.toEvent) ∧
        (accepts s.world.nextReply = false → Response.succeeded response = false)) s := by
  have hread : signal.kind.read request = .ok signal := read_eq_ok_iff.2 ⟨rfl, recipient, h⟩
  unfold Handler.answer
  simp only [bind_eq, liftM_eq, Function.handler]
  rw [haccept, ofExcept_ok, done_bind, run_eq, hread, ofExcept_ok, done_bind]
  refine (send_ensures hw h).attempt_bind ?_
  rintro (e | response) s₁ ⟨h1, hyes, hno⟩
  · refine (Handler.respond_ensures _ e s₁).mono ?_
    rintro _ s₂ ⟨h2, response, rfl, hfailed⟩
    refine ⟨h1.silent h2, response, rfl, fun hreply => ?_, fun _ => hfailed⟩
    cases hyes hreply
  · refine ⟨h1, response, rfl, fun hreply => Except.ok.inj (hyes hreply), fun hreply => ?_⟩
    obtain ⟨e, he⟩ := hno hreply
    cases he

/-- A call that does not ask for a signal is answered with a failure, before anything is called. -/
theorem answer_unasked
    (h : ∀ request recipient signal,
      Request.accept (Request.require kind.function.required) event = .ok request →
        signal.kind = kind → ¬Request.Asks request recipient signal) :
    (kind.function.handler.answer event).Ensures actual (fun x s' => s.Makes [] s' ∧
      ∃ response, x = .ok response ∧ Response.succeeded response = false) s := by
  have hfails : ∃ e, (Act.ofExcept (Request.accept (Request.require kind.function.required)
      event)).bind kind.function.run = .fail e := by
    cases haccept : Request.accept (Request.require kind.function.required) event with
    | error e => exact ⟨e, rfl⟩
    | ok request =>
      rw [ofExcept_ok, done_bind, run_eq]
      cases hread : kind.read request with
      | error e => exact ⟨e, rfl⟩
      | ok signal =>
        obtain ⟨hkind, recipient, hasks⟩ := read_eq_ok_iff.1 hread
        exact (h request recipient signal haccept hkind hasks).elim
  obtain ⟨e, hfails⟩ := hfails
  unfold Handler.answer
  simp only [bind_eq, liftM_eq, Function.handler]
  rw [hfails]
  exact (Handler.respond_ensures _ e s).mono fun x s₁ hx => ⟨hx.1.makes_nil, hx.2⟩

/-- What becomes of a call that asks for a signal. -/
theorem invoke_asked {w : World} (hw : w.SendsOver bus source) (ht : w.IsTimed)
    (haccept : Request.accept (Request.require signal.kind.function.required) event = .ok request)
    (h : request.Asks recipient signal) (context : Value) :
    Query.calls ((signal.kind.function.invoke event context).asked w) =
        [.putEvent (signal.entry bus source)] ∧
      (accepts w.nextReply = true → ∃ answer,
        ((signal.kind.function.invoke event context).run w).1 = .ok answer ∧
          Response.Delivered event (report signal.kind w.clock signal.toEvent) answer) ∧
      (Handler.Succeeds event ((signal.kind.function.invoke event context).run w).1 ↔
        accepts w.nextReply = true) := by
  let s : Scene := ⟨w, []⟩
  let s' := Function.begun s event context
  have hbegun : s.Silent s' := Function.silent_begun s event context
  have hnext : s'.world.nextReply = w.nextReply := by
    rw [World.nextReply, hbegun.replies, World.nextReply]
  obtain ⟨hcontainer, htransports, henv⟩ := Function.begun_rest s event context
  have hw' : s'.world.SendsOver bus source := hw.of_same hcontainer htransports henv
  have hinvoke : (signal.kind.function.invoke event context).Ensures actual _ s :=
    Function.invoke_ensures_actual ht (answer_asked hw' haccept h)
  obtain ⟨hmakes, response, ⟨hyes, hno⟩, hdeliver, hsuccess⟩ := ensures_run_actual hinvoke
  rw [hnext] at hyes hno
  have hanswer (hreply : accepts w.nextReply = true) : ∃ answer,
      ((signal.kind.function.invoke event context).run w).1 = .ok answer ∧
        Response.Delivered event (report signal.kind w.clock signal.toEvent) answer := by
    have hreport : response = report signal.kind w.clock signal.toEvent := by
      rw [hyes hreply, hbegun.clock]
    rw [hreport] at hsuccess
    have hwritable := isWritable_report w.clock h
    obtain ⟨answer, hdelivered⟩ := Handler.exists_deliver event hwritable
    exact ⟨answer, (hsuccess rfl).trans hdelivered, .of_deliver hwritable hdelivered⟩
  refine ⟨hmakes.calls, hanswer, fun hs => ?_, fun hreply => ?_⟩
  · cases hreply : accepts w.nextReply with
    | true => rfl
    | false => exact (Handler.not_succeeds hdeliver (hno hreply) hs).elim
  · obtain ⟨answer, hx, hdelivered⟩ := hanswer hreply
    exact ⟨answer, _, hx, hdelivered, rfl⟩

/-- **Offers and answers are relayed exactly once.**  A request that is admitted and asks for a signal
    puts one entry on the bus and calls nothing else; no other request calls anything.  It is a
    success exactly if the bus accepts that entry.  The detail of the entry is the JSON text of the
    notification that the response reports.  What is read from it is that notification, with the
    halves of surrogate pairs joined that stand side by side; and so it is the notification itself
    just if none do in the names of the two, as in all requests of legible events. -/
theorem relays_once (kind : SignalKind) {w : World} (hw : w.SendsOver bus source) (ht : w.IsTimed)
    (event context : Value) :
    let f := kind.function
    let calls := Query.calls ((f.invoke event context).asked w)
    let x := ((f.invoke event context).run w).1
    (∀ request recipient signal,
      Request.accept (Request.require f.required) event = .ok request → signal.kind = kind →
      Request.Asks request recipient signal → ∃ (detail : Object) (text : Text),
        calls = [.putEvent [("Source", source), ("DetailType", .str kind.detailType),
          ("Detail", .str text), ("EventBusName", bus)]] ∧
        signal.IsTold request.caller recipient detail ∧
        Json.print? (.obj detail) = some text ∧
        Json.parse text = .ok (.obj (Object.joined detail)) ∧
        (Json.parse text = .ok (.obj detail) ↔ request.caller.IsWhole ∧ recipient.IsWhole) ∧
        (Request.IsLegible event → request.caller.IsWhole ∧ recipient.IsWhole) ∧
        signal.check = .ok signal ∧
        (accepts w.nextReply = true → ∃ answer, x = .ok answer ∧
          Response.Delivered event (kind.report w.clock detail) answer) ∧
        (Handler.Succeeds event x ↔ accepts w.nextReply = true)) ∧
    ((∀ request recipient signal,
      Request.accept (Request.require f.required) event = .ok request → signal.kind = kind →
        ¬Request.Asks request recipient signal) →
      calls = [] ∧ ¬Handler.Succeeds event x) := by
  intro f calls x
  constructor
  · intro request recipient signal haccept hkind hasks
    obtain rfl : signal.kind = kind := hkind
    obtain ⟨hcalls, hanswer, hsucceeds⟩ := invoke_asked hw ht haccept hasks context
    have htype : signal.kind.name = signal.kind.detailType := by cases signal.kind <;> rfl
    rw [Signal.entry, htype] at hcalls
    have hparse := Signal.parse_print_toEvent hasks
    refine ⟨signal.toEvent, Json.print (.obj signal.toEvent), hcalls, Signal.isTold_toEvent hasks,
      if_pos (isPlain_toEvent hasks), hparse, ?_, ?_, Signal.check_of_asks hasks, hanswer, hsucceeds⟩
    · rw [hparse, Except.ok.injEq, Value.obj.injEq]
      exact Signal.joined_toEvent_iff hasks
    · intro hlegible
      exact Signal.whole_of_asks hlegible (Request.ofEvent_of_accept haccept) hasks
  · intro hunasked
    have hinvoke : (f.invoke event context).Ensures actual _ ⟨w, []⟩ :=
      Function.invoke_ensures_actual ht (answer_unasked hunasked)
    obtain ⟨hmakes, response, hfailed, hdeliver, -⟩ := ensures_run_actual hinvoke
    exact ⟨hmakes.calls, Handler.not_succeeds hdeliver hfailed⟩

/-- The answer to an offer, as an event. -/
def reply : Object := [("caller", .str "ann"), ("to", .str "bob"), ("answer", .str "0x07")]

theorem reply_relayed :
    blankWorld.SendsOver (.str "signal-registry-test") (.str "signal-registry.signal-channel") ∧
    blankWorld.IsTimed ∧ ∃ (signal : Signal) (detail : Object) (text : Text),
      Request.Asks ⟨"ann", reply⟩ "bob" signal ∧ signal.IsTold "ann" "bob" detail ∧
      Query.calls ((Function.chatAnswer.invoke (.obj reply) .null).asked blankWorld) =
        [.putEvent [("Source", .str "signal-registry.signal-channel"), ("DetailType", .str "Answer"),
          ("Detail", .str text), ("EventBusName", .str "signal-registry-test")]] ∧
      Json.parse text = .ok (.obj detail) ∧
      ∃ response, ((Function.chatAnswer.invoke (.obj reply) .null).run blankWorld).1 =
          .ok response ∧
        response = .obj [("success", .bool true),
          ("data", .obj [("event", .str "Answer"), ("detail", .obj detail),
            ("operation", .str "answer_chat")]),
          ("metadata", .obj [("timestamp", .str blankWorld.clock.isoText),
            ("function_name", .str "chat-answer")])] := by
  have hw : blankWorld.SendsOver (.str "signal-registry-test") (.str "signal-registry.signal-channel") :=
    ⟨0, _, rfl, .made rfl rfl rfl rfl⟩
  have ht : blankWorld.IsTimed := List.forall_mem_nil _
  have haccept : Request.accept (Request.require answer.function.required) (.obj reply) =
      .ok ⟨"ann", reply⟩ := rfl
  obtain ⟨signal, hread⟩ : ∃ signal, answer.read ⟨"ann", reply⟩ = .ok signal := ⟨_, rfl⟩
  obtain ⟨hkind, recipient, hasks⟩ := read_eq_ok_iff.1 hread
  obtain rfl : recipient = "bob" := by
    have hnamed : some (Value.str "bob") = some (Value.str recipient) := hasks.named
    simpa using hnamed.symm
  obtain ⟨hasked, -⟩ := relays_once .answer hw ht (.obj reply) .null
  obtain ⟨detail, text, hcalls, htold, -, -, hexact, -, -, hanswer, -⟩ :=
    hasked _ _ signal haccept hkind hasks
  have hann : Text.IsWhole "ann" := by decide
  have hbob : Text.IsWhole "bob" := by decide
  obtain ⟨response, hx, hdelivered⟩ := hanswer rfl
  have hdirect : ¬Request.IsFromGateway (.obj reply) := by
    rw [Request.isFromGateway_iff]
    exact Bool.false_ne_true
  exact ⟨hw, ht, signal, detail, text, hasks, htold, hcalls, hexact.2 ⟨hann, hbob⟩,
    response, hx, hdelivered.direct hdirect⟩

/-- Both halves of a surrogate pair, side by side. -/
def halves : Text := [.ofNat 0xd83d, .ofNat 0xde00]

/-- A body with the first half escaped, and the second one as it is: the two are not one escaped
    pair, so they are read as they stand. -/
def halvesBody : Text :=
  Text.ofString "\x7b\"to\": \"\\ud83d" ++ [.ofNat 0xde00] ++
    Text.ofString "\", \"answer\": \"0x07\"\x7d"

/-- The gateway event of that request. -/
def halvesEvent : Value :=
  .obj [("body", .str halvesBody),
    ("requestContext", .obj [("authorizer", .obj [("claims", .obj [("sub", .str "ann")])])])]

/-- The recipient of that request is reported as it is given, but another one is read from what is
    put on the bus: where JSON text holds no surrogates, halves side by side are the pair. -/
theorem halves_relayed_joined :
    let call := Function.chatAnswer.invoke halvesEvent .null
    ∃ (request : Request) (detail read : Object) (text : Text) (answer : Value),
      Request.ofEvent halvesEvent = .ok request ∧
      Object.field? "to" request.body = some (.str halves) ∧
      Query.calls (call.asked blankWorld) =
        [.putEvent [("Source", .str "signal-registry.signal-channel"),
          ("DetailType", .str "Answer"), ("Detail", .str text),
          ("EventBusName", .str "signal-registry-test")]] ∧
      (call.run blankWorld).1 = .ok answer ∧
      Response.Delivered halvesEvent (SignalKind.answer.report blankWorld.clock detail) answer ∧
      detail.field? "answer_to" = some (.str halves) ∧
      Json.parse text = .ok (.obj read) ∧
      read.field? "answer_to" = some (.str [.ofNat 0x1f600]) ∧ read ≠ detail := by
  intro call
  have hw : blankWorld.SendsOver (.str "signal-registry-test")
      (.str "signal-registry.signal-channel") := ⟨0, _, rfl, .made rfl rfl rfl rfl⟩
  have ht : blankWorld.IsTimed := List.forall_mem_nil _
  have haccept : Request.accept (Request.require answer.function.required) halvesEvent =
      .ok ⟨"ann", [("to", .str halves), ("answer", .str "0x07")]⟩ := rfl
  obtain ⟨signal, hread⟩ : ∃ signal,
      answer.read ⟨"ann", [("to", .str halves), ("answer", .str "0x07")]⟩ = .ok signal := ⟨_, rfl⟩
  obtain ⟨hkind, recipient, hasks⟩ := read_eq_ok_iff.1 hread
  obtain ⟨kind, payload, sender, receiver, welcome⟩ := signal
  obtain rfl : kind = .answer := hkind
  have hnamed : some (Value.str halves) = some (.str recipient) := hasks.named
  obtain rfl : halves = recipient := Value.str.inj (Option.some.inj hnamed)
  obtain rfl : receiver = .str halves := hasks.recipient
  obtain ⟨hcalls, hanswer, -⟩ := invoke_asked hw ht haccept hasks .null
  obtain ⟨delivered, hx, hdelivered⟩ := hanswer rfl
  refine ⟨_, _, _, _, delivered, Request.ofEvent_of_accept haccept, rfl, hcalls, hx, hdelivered,
    (Signal.isTold_toEvent hasks).recipient, Signal.parse_print_toEvent hasks, rfl, fun heq => ?_⟩
  have hhalves : ¬halves.IsWhole := by decide
  exact hhalves ((Signal.joined_toEvent_iff hasks).1 heq).2

end SignalKind

end Rendezvous
