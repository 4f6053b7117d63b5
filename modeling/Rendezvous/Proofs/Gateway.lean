/-
  The two ways to a function agree.

  A request may come in an event of its own, which names its caller, or by the gateway, which puts
  its body into a text and vouches for the caller.  Functions do not look at the field that names
  the caller, and what is logged is of no consequence.

  * `World.AgreesWith`: worlds that differ in nothing but the lines of their logs;
  * `Request.Wraps`: a gateway event with the body of a request, and its caller;
  * `Function.gateway_agrees`: a gateway event does what the request itself does;
    `Function.gateway_answers`: it is answered with the response to it and its status.
-/
import Rendezvous.Proofs.Declared
import Rendezvous.Proofs.Delivery

namespace Rendezvous

/-! ## Logs -/

namespace World

/-- The worlds differ in nothing but the lines of their logs. -/
def AgreesWith (w w' : World) : Prop := { w' with lines := w.lines } = w

variable {w w' : World}

theorem AgreesWith.iff_exists : w.AgreesWith w' ↔ ∃ lines, w' = { w with lines := lines } := by
  constructor
  · intro h
    exact ⟨w'.lines, by rw [← h]⟩
  · rintro ⟨lines, rfl⟩
    rfl

/-- Worlds that agree give the same replies, and agree after that. -/
theorem AgreesWith.reply (h : w.AgreesWith w') (q : Query) :
    (w'.reply q).1 = (w.reply q).1 ∧ (w.reply q).2.AgreesWith (w'.reply q).2 := by
  obtain ⟨lines, rfl⟩ := AgreesWith.iff_exists.1 h
  cases q with
  | store call =>
    have hcall : { w with lines := lines }.callStore call =
        ((w.callStore call).1, { (w.callStore call).2 with lines := lines }) := by
      unfold callStore
      dsimp only
      split
      · rfl
      · split <;> rfl
    rw [World.reply, World.reply, hcall]
    exact ⟨rfl, rfl⟩
  | stopwatch =>
    unfold World.reply readStopwatch
    dsimp only
    split <;> exact ⟨rfl, rfl⟩
  | putEvent entry =>
    unfold World.reply World.putEvent
    dsimp only
    split <;> exact ⟨rfl, rfl⟩
  | _ => exact ⟨rfl, rfl⟩

end World

/-- A program ends alike in worlds that agree. -/
theorem Act.run_agrees {α : Type} (act : Act α) {w w' : World} (h : w.AgreesWith w') :
    (act.run w').1 = (act.run w).1 ∧ (act.run w).2.AgreesWith (act.run w').2 := by
  induction act generalizing w w' with
  | done a => exact ⟨rfl, h⟩
  | fail e => exact ⟨rfl, h⟩
  | ask q next ih =>
    obtain ⟨hreply, hnext⟩ := h.reply q
    rw [run_ask, run_ask, hreply]
    exact ih _ hnext

/-! ## Requests -/

namespace Object

/-- The objects have the same fields, but for the one that names the caller. -/
def Alike (o o' : Object) : Prop := ∀ name : Text, name ≠ "caller" → field? name o' = field? name o

theorem Alike.sameAt {o o' : Object} (h : o.Alike o') {names : List Text}
    (hn : Text.ofString "caller" ∉ names) : o.SameAt names o' := by
  intro name hname
  refine h name ?_
  rintro rfl
  exact hn hname

end Object

theorem Object.alike_put (o : Object) (caller : Value) : o.Alike (o.put "caller" caller) :=
  fun _ hn => field?_put_of_ne hn caller o

/-- No function declares the field that names the caller. -/
theorem Function.caller_notMem_declares {f : Function} {names : List Text}
    (h : (f, names) ∈ declares) : Text.ofString "caller" ∉ names := by
  have hall : ∀ entry ∈ declares, Text.ofString "caller" ∉ entry.2 := by decide
  exact hall _ h

/-! ## Events -/

/-- A name that a caller may have: not blank, and without blanks around it. -/
structure Identity.IsCaller (caller : Text) : Prop where
  nonblank : caller.isBlank = false
  stripped : caller.strip = caller

theorem Identity.IsCaller.authenticate {caller : Text} (h : IsCaller caller) :
    Identity.authenticate (.str caller) = .ok caller := by
  simp [Identity.authenticate, h.nonblank, h.stripped]

namespace Request

/-- A request context vouches for a caller in either of the two places for claims. -/
inductive Vouches (caller : Text) (context : Object) : Prop
  | rest {authorizer claims : Object} : context.field? "authorizer" = some (.obj authorizer) →
      authorizer.field? "claims" = some (.obj claims) → claims.field? "sub" = some (.str caller) →
      Vouches caller context
  | http {authorizer token claims : Object} :
      context.field? "authorizer" = some (.obj authorizer) →
      (authorizer.fieldOrNull "claims").isTruthy = false →
      authorizer.field? "jwt" = some (.obj token) → token.field? "claims" = some (.obj claims) →
      claims.field? "sub" = some (.str caller) → Vouches caller context

/-- A gateway event with the body of a request as JSON text, and its caller. -/
structure Wraps (event : Object) (body : Object) (caller : Text) : Prop where
  text : ∃ t, event.field? "body" = some (.str t) ∧ Json.parse t = .ok (.obj body)
  context : ∃ context, event.field? "requestContext" = some (.obj context) ∧
    Vouches caller context

variable {event body : Object} {caller : Text}

theorem isTruthy_of_field? {o : Object} {name : Text} {v : Value} (h : o.field? name = some v) :
    (Value.obj o).isTruthy = true := by
  cases o with
  | nil => cases h
  | cons entry o => rfl

theorem Vouches.claims {context : Object} (h : Vouches caller context)
    (he : event.field? "requestContext" = some (.obj context)) :
    ∃ claims : Object, Request.claims event = .ok (.obj claims) ∧
      claims.field? "sub" = some (.str caller) := by
  cases h with
  | @rest authorizer claims ha hc hs =>
    refine ⟨claims, ?_, hs⟩
    simp only [Request.claims, bind, Except.bind, he, Option.getD_some, Object.fieldOrNull, ha, hc,
      Value.fields, Value.orEmpty, Value.orElse, isTruthy_of_field? hc, isTruthy_of_field? hs,
      if_true]
    rfl
  | @http authorizer token claims ha hno hj hc hs =>
    refine ⟨claims, ?_, hs⟩
    rw [Object.fieldOrNull] at hno
    simp only [Request.claims, bind, Except.bind, he, Option.getD_some, Object.fieldOrNull, ha, hno,
      hj, hc, Value.fields, Value.orEmpty, Value.orElse, isTruthy_of_field? hj,
      isTruthy_of_field? hs, if_true]
    rfl

theorem Wraps.isGatewayEvent (h : Wraps event body caller) :
    Request.isGatewayEvent (.obj event) = true := by
  obtain ⟨-, context, hcontext, -⟩ := h
  rw [Request.isGatewayEvent, Object.has, hcontext]
  rfl

theorem Wraps.ofEvent (h : Wraps event body caller) (hc : Identity.IsCaller caller) :
    Request.ofEvent (.obj event) = .ok ⟨caller, body⟩ := by
  have hgateway := h.isGatewayEvent
  obtain ⟨⟨t, ht, hparse⟩, context, hcontext, hvouches⟩ := h
  obtain ⟨claims, hclaims, hsub⟩ := hvouches.claims hcontext
  have hbody : gatewayBody event = .ok (.obj body) := by
    rw [gatewayBody, Object.fieldOrNull, ht, Option.getD_some]
    cases t with
    | nil => cases hparse
    | cons c t => simp only [hparse]; rfl
  have hparts : parts (.obj event) = .ok (.obj body, .str caller) := by
    simp only [parts, hgateway, if_true, hbody, hclaims]
    simp only [bind, Except.bind, Value.fieldOrNull, Value.fields, Except.map, Object.fieldOrNull,
      hsub]
    rfl
  rw [Request.ofEvent, hparts]
  simp only [bind, Except.bind, bodyFields, hc.authenticate]
  rfl

/-- A request in an event of its own, which names its caller. -/
def direct (caller : Text) (body : Object) : Value := .obj (body.put "caller" (.str caller))

theorem isGatewayEvent_direct (hb : body.has "requestContext" = false) :
    isGatewayEvent (direct caller body) = false := by
  have hne : Text.ofString "requestContext" ≠ Text.ofString "caller" := by decide
  rw [direct, isGatewayEvent, Object.has, Object.field?_put_of_ne hne]
  exact hb

theorem ofEvent_direct (hb : body.has "requestContext" = false) (hc : Identity.IsCaller caller) :
    Request.ofEvent (direct caller body) = .ok ⟨caller, body.put "caller" (.str caller)⟩ := by
  have hparts : parts (direct caller body) = .ok (direct caller body, .str caller) := by
    have hgateway := @isGatewayEvent_direct body caller hb
    rw [direct] at hgateway ⊢
    rw [parts, hgateway, Object.fieldOrNull, Object.field?_put_self]
    rfl
  rw [Request.ofEvent, hparts]
  simp only [bind, Except.bind, direct, bodyFields, hc.authenticate]
  rfl

end Request

/-- A request in an event of its own is answered with the response to it. -/
theorem Handler.deliver_direct {caller : Text} {body : Object}
    (hb : body.has "requestContext" = false) (response : Value) :
    Handler.deliver (Request.direct caller body) response = .ok response := by
  rw [Handler.deliver, Request.isGatewayEvent_direct hb, if_neg Bool.false_ne_true]

namespace Function

variable {f : Function} {event body : Object} {caller : Text}

/-- The response of a function to an event; its end is logged. -/
def served (f : Function) (event start : Value) : Act Value :=
  (f.handler.answer event).bind fun response =>
    (Handler.logEnd handlerName start response).bind fun _ => .done response

theorem invoke_eq (f : Function) (event context : Value) : f.invoke event context =
    Act.stopwatch.bind fun start =>
      (Act.note mainSource (.started (.str handlerName) event (Handler.requestId context)) []).bind
        fun _ => (f.served event start).bind fun response =>
          Act.ofExcept (Handler.deliver event response) := by
  simp only [served, Act.bind_assoc, Act.done_bind]
  rfl

/-- An event of the gateway and the request itself have the same response. -/
theorem served_eq (hf : f ∈ all) (he : Request.Wraps event body caller)
    (hc : Identity.IsCaller caller) (hb : body.has "requestContext" = false) (start : Value) :
    f.served (.obj event) start = f.served (Request.direct caller body) start := by
  -- both are requests of this caller, and their bodies are the same but for its name
  have halike : body.Alike (body.put "caller" (.str caller)) := body.alike_put _
  have hanswered : (Act.ofExcept (Request.accept (Request.require f.required) (.obj event))).bind
      f.run = (Act.ofExcept (Request.accept (Request.require f.required)
        (Request.direct caller body))).bind f.run := by
    rw [Request.accept, he.ofEvent hc, Request.accept, Request.ofEvent_direct hb hc]
    obtain ⟨names, hnames⟩ := exists_declares hf
    exact (require_run_sameAt hnames (halike.sameAt (caller_notMem_declares hnames)) caller).symm
  have hanswer : f.handler.answer (.obj event) = f.handler.answer (Request.direct caller body) := by
    unfold Handler.answer
    simp only [Act.bind_eq, Act.liftM_eq, handler]
    rw [hanswered]
  rw [served, hanswer, served]

/-- The call of a function, its response and the answer by which it is delivered. -/
theorem invoke_run_eq (f : Function) (event context : Value) (w : World) :
    ∃ entry, (f.invoke event context).run w =
      let served := (f.served event w.readStopwatch.1).run (w.readStopwatch.2.log entry)
      (served.1.bind (Handler.deliver event), served.2) := by
  let entry := (Log.Note.started (.str handlerName) event (Handler.requestId context)).entry
    (.str mainSource) []
  refine ⟨entry, ?_⟩
  rw [invoke_eq]
  refine (Act.run_bind (f.served event w.readStopwatch.1) _ (w.readStopwatch.2.log entry)).trans ?_
  rcases (f.served event w.readStopwatch.1).run (w.readStopwatch.2.log entry) with
    ⟨e | response, w'⟩
  · rfl
  · dsimp only [Except.bind]
    cases Handler.deliver event response <;> rfl

/-- An event of the gateway leaves the world that the request itself leaves, but for the log, and
    delivers the response to it. -/
theorem gateway_agrees (hf : f ∈ all) (he : Request.Wraps event body caller)
    (hc : Identity.IsCaller caller) (hb : body.has "requestContext" = false)
    (context context' : Value) (w : World) :
    ((f.invoke (.obj event) context).run w).1 =
        (((f.invoke (Request.direct caller body) context').run w).1.bind fun response =>
          Handler.deliver (.obj event) response) ∧
      ((f.invoke (Request.direct caller body) context').run w).2.AgreesWith
        ((f.invoke (.obj event) context).run w).2 := by
  obtain ⟨entry, hgate⟩ := invoke_run_eq f (.obj event) context w
  obtain ⟨entry', hdirect⟩ := invoke_run_eq f (Request.direct caller body) context' w
  have hdeliver (x : Except Failure Value) :
      x.bind (Handler.deliver (Request.direct caller body)) = x := by
    cases x with
    | error e => rfl
    | ok response => exact Handler.deliver_direct hb response
  -- the two runs have logged their events before they come to the same program
  have hlogs : (w.readStopwatch.2.log entry').AgreesWith (w.readStopwatch.2.log entry) := rfl
  obtain ⟨hx, hworld⟩ :=
    (f.served (Request.direct caller body) w.readStopwatch.1).run_agrees hlogs
  rw [hgate, hdirect, served_eq hf he hc hb]
  dsimp only
  rw [hdeliver, hx]
  exact ⟨rfl, hworld⟩

/-- Wherever the replies are plain, the request itself is answered, and the response can be
    written. -/
theorem invoke_direct_returns (hf : f ∈ all) (hb : body.has "requestContext" = false)
    (context : Value) :
    (f.invoke (Request.direct caller body) context).Returns Response.IsWritable := by
  rw [invoke_eq]
  refine Act.closes_stopwatch.bind ?_
  rintro _ ⟨start, rfl⟩
  refine (Act.closes_note _ _ _).bind fun _ _ => ?_
  refine ((answer_returns hf _).bind (S := Response.IsWritable) fun response h => ?_).bind
    fun response h => ?_
  · exact (Handler.logEnd_returns _ start h).bind fun _ _ => h
  · rw [Handler.deliver_direct hb]
    exact h

/-- **The gateway changes nothing**: an event of the gateway leaves the tables and publishes what
    the request itself does, and its answer is made from the response to the request.  Where the
    world holds no bytes, there is such a response, and the gateway is answered with the status that
    goes with it and with its JSON text. -/
theorem gateway_answers (hf : f ∈ all) (he : Request.Wraps event body caller)
    (hc : Identity.IsCaller caller) (hb : body.has "requestContext" = false)
    (context context' : Value) (w : World) :
    let direct := (f.invoke (Request.direct caller body) context').run w
    let gate := (f.invoke (.obj event) context).run w
    gate.2.tables = direct.2.tables ∧ gate.2.published = direct.2.published ∧
      gate.1 = (direct.1.bind fun response => (Response.status response).bind fun status =>
        Response.gateway (.int status.number) response) ∧
      (w.IsPlain → ∃ response answer, direct.1 = .ok response ∧ gate.1 = .ok answer ∧
        Response.Wraps response answer) := by
  intro direct gate
  obtain ⟨hanswer, hworld⟩ := gateway_agrees hf he hc hb context context' w
  obtain ⟨lines, hlines⟩ := World.AgreesWith.iff_exists.1 hworld
  have hgate : gate.1 = (direct.1.bind fun response => (Response.status response).bind
      fun status => Response.gateway (.int status.number) response) := by
    rw [hanswer]
    simp only [Handler.deliver, he.isGatewayEvent, if_true]
    rfl
  refine ⟨by rw [hlines], by rw [hlines], hgate, fun hw => ?_⟩
  obtain ⟨response, hresponse, hwritable⟩ | ⟨e, -, hno⟩ :=
    (invoke_direct_returns hf hb context').run hw
  · obtain ⟨answer, hdeliver⟩ := Handler.exists_deliver (.obj event) hwritable
    have hdelivered := Response.Delivered.of_deliver hwritable hdeliver
    refine ⟨response, answer, hresponse, ?_,
      hdelivered.wrapped (Request.isFromGateway_iff.2 he.isGatewayEvent)⟩
    rw [hanswer, hresponse]
    exact hdeliver
  · exact hno.elim

/-- Removing a contact, as the body of a request. -/
def removal : Object := [("addr", .str "0x01")]

/-- The gateway event of that request. -/
def gatewayRemoval : Object :=
  [("body", .str "\x7b\"addr\": \"0x01\"\x7d"),
   ("requestContext", .obj [("authorizer", .obj [("claims", .obj [("sub", .str "ann")])])])]

/-- The gateway answers it. -/
theorem gatewayRemoval_answers : contactRemove ∈ all ∧ Request.Wraps gatewayRemoval removal "ann" ∧
    Identity.IsCaller "ann" ∧ removal.has "requestContext" = false ∧ blankWorld.IsPlain ∧
    ∃ (response answer : Value) (text : Text),
      ((contactRemove.invoke (Request.direct "ann" removal) .null).run blankWorld).1 =
        .ok response ∧
      ((contactRemove.invoke (.obj gatewayRemoval) .null).run blankWorld).1 = .ok answer ∧
      answer.at? ["statusCode"] = some (.int 200) ∧ answer.at? ["body"] = some (.str text) ∧
      Json.print? response = some text := by
  have hf : contactRemove ∈ all := by simp [all]
  have he : Request.Wraps gatewayRemoval removal "ann" :=
    ⟨⟨_, rfl, rfl⟩, _, rfl, .rest rfl rfl rfl⟩
  have hc : Identity.IsCaller "ann" := ⟨rfl, rfl⟩
  have hw : blankWorld.IsPlain := by
    constructor <;> exact List.forall_mem_nil _
  obtain ⟨-, -, -, hanswers⟩ := gateway_answers hf he hc rfl .null .null blankWorld
  obtain ⟨response, answer, hresponse, hgate, number, text, hnumber, htext, hanswer⟩ := hanswers hw
  have hsucceeded : Response.succeeded response = true := by
    obtain rfl := Except.ok.inj (hresponse.symm.trans rfl)
    rfl
  obtain rfl : number = 200 := hnumber.eq_ok_iff.2 hsucceeded
  refine ⟨hf, he, hc, rfl, hw, response, answer, text, hresponse, hgate, ?_, ?_, htext⟩
  · rw [hanswer]
    rfl
  · rw [hanswer]
    rfl

end Function

end Rendezvous
