/-
  Whose name a request is carried out in.

  The gateway vouches for the caller of an event, and for nothing else in it.  What an event says
  of its caller elsewhere, or in fields that its function does not declare, is of no consequence,
  and nothing is written or sent but in the name of the subject of its claims.

  * `Query.IsBy`: what is written or sent by a question is in the name of a caller;
    `Function.run_poses`: so are all questions of every function;
  * `Request.subject`: the subject of the claims of an event; `Request.ofEvent_gateway`: it is the
    caller of the request;
  * `Function.gateway_speaks_for_subject`: no gateway event speaks for anybody else.
-/
import Rendezvous.Proofs.Asking
import Rendezvous.Proofs.Gateway

namespace Rendezvous

open Act

/-! ## Signals -/

/-- The name of the part of a notification that tells who sends it. -/
def SignalKind.senderName : SignalKind → Text
  | .offer => "offered_by"
  | .answer => "answer_from"

theorem Signal.field?_sender (s : Signal) :
    Object.field? s.kind.senderName s.toEvent = some s.sender := by
  obtain ⟨kind, payload, sender, recipient, welcome⟩ := s
  cases kind <;> rfl

/-- A message that is admitted is sent as it is. -/
theorem Signal.eq_of_check {s s' : Signal} (h : s.check = .ok s') : s' = s := by
  unfold check at h
  split at h
  · cases h
  · split at h
    · split at h
      · exact (Except.ok.inj h).symm
      · cases h
    · cases h
    · exact (Except.ok.inj h).symm
    · cases h

/-! ## In the name of a caller -/

namespace Query

/-- Records, bindings and contacts that are put, contacts that are taken out and notifications that
    are sent are those of a caller. -/
def IsBy (caller : Text) : Query → Prop
  | .store (.register item binding) => item.identity = .str caller ∧ binding.identity = .str caller
  | .store (.putContact item) => item.owner = .str caller
  | .store (.deleteContact owner _) => owner = .str caller
  | .putEvent entry => ∃ (kind : SignalKind) (event : Object),
    Object.field? "DetailType" entry = some (.str kind.name) ∧
      Object.field? "Detail" entry = some (.str (Json.print (.obj event))) ∧
      Object.field? kind.senderName event = some (.str caller)
  | .record event => ∃ kind : SignalKind, Object.field? kind.senderName event = some (.str caller)
  | _ => True

theorem hasHarmless_isBy (caller : Text) : HasHarmless (IsBy caller) := by
  intro q hq
  cases q with
  | store call => cases call <;> first | exact trivial | cases hq
  | putEvent entry => cases hq
  | record event => cases hq
  | _ => trivial

/-- A signal is put on the event bus, or a record is kept of it; besides that, only quiet questions
    are asked. -/
def Sends (s : Signal) : Query → Prop
  | .putEvent entry => ∃ bus source, Transport.entryOf bus source s = .ok entry
  | .record event => event = s.toEvent
  | q => q.isQuiet = true

theorem hasQuiet_sends (s : Signal) : HasQuiet (Sends s) := by
  intro q hq
  cases q <;> first | exact hq | cases hq

end Query

variable {caller : Text}

/-- A signal is sent in the name of its sender. -/
theorem Query.Sends.isBy {s : Signal} (hs : s.sender = .str caller) {q : Query} (h : q.Sends s) :
    q.IsBy caller := by
  cases q with
  | putEvent entry =>
    obtain ⟨bus, source, hentry⟩ := h
    unfold Transport.entryOf at hentry
    split at hentry
    · rename_i detail hdetail
      obtain rfl := Except.ok.inj hentry
      rw [Json.print?] at hdetail
      split_ifs at hdetail
      obtain rfl := Option.some.inj hdetail
      exact ⟨s.kind, s.toEvent, rfl, rfl, by rw [s.field?_sender, hs]⟩
    · cases hentry
  | record event =>
    obtain rfl : event = s.toEvent := h
    exact ⟨s.kind, by rw [s.field?_sender, hs]⟩
  | store call => cases h
  | _ => trivial

namespace Transport

theorem readReply_poses {P : Query → Prop} (hP : Query.HasIdle P) (bus : Value) (s : Signal)
    (reply : Value) : (readReply bus s reply).Poses P := by
  unfold readReply logSent
  simp only [bind_eq, liftM_eq, pure_eq]
  refine (poses_ofExcept _).bind fun fields => ?_
  split
  · refine (poses_ofExcept _).bind fun entry => (poses_ofExcept _).bind fun code => ?_
    exact (poses_ofExcept _).bind fun message => (poses_note hP _ _ _).bind fun _ => trivial
  · trivial

theorem connect_poses {P : Query → Prop} (hP : Query.HasQuiet P) (slot : Nat) (bus source : Value)
    (connected : Bool) : (connect slot bus source connected).Poses P := by
  unfold connect
  cases connected with
  | true => trivial
  | false => exact ⟨hP _ rfl, fun _ => ⟨hP _ rfl, fun _ => ⟨hP _ rfl, fun _ => trivial⟩⟩⟩

theorem send_poses (slot : Nat) (bus source : Value) (connected : Bool) (s : Signal) :
    (send slot bus source connected s).Poses (Query.Sends s) := by
  have hquiet := Query.hasQuiet_sends s
  have hidle := hquiet.hasIdle
  unfold send logSent
  simp only [bind_eq, liftM_eq]
  cases hentry : entryOf bus source s with
  | error e => trivial
  | ok entry =>
    simp only [ofExcept_ok, done_bind]
    refine (connect_poses hquiet slot bus source connected).bind fun _ => ?_
    have hsent : (Act.ask (.putEvent entry) Act.ofExcept).Poses (Query.Sends s) :=
      ⟨⟨bus, source, hentry⟩, fun _ => poses_ofExcept _⟩
    refine hsent.attempt.bind fun x => ?_
    split
    · exact (readReply_poses hidle bus s _).bind fun _ => poses_note hidle _ _ _
    · exact (poses_note hidle _ _ _).bind fun _ => trivial
    · trivial

theorem publish_poses (slot : Nat) (s : Signal) (transport : Transport) :
    (publish slot s transport).Poses (Query.Sends s) := by
  cases transport with
  | bus name source connected => exact send_poses slot name source connected s
  | recording failure =>
    cases failure with
    | none => exact ⟨rfl, fun _ => trivial⟩
    | some failure => trivial
  | undefined => trivial

theorem onBus_poses {P : Query → Prop} (hP : Query.HasQuiet P) (site : Site)
    (bus source : Value) : (onBus site bus source).Poses P := by
  unfold onBus
  simp only [bind_eq, pure_eq]
  refine (poses_environment hP).bind fun env => ?_
  split <;> trivial

end Transport

namespace Channel
variable (c : Channel)

theorem transport_poses {P : Query → Prop} (hP : Query.HasQuiet P) : c.transport.Poses P := by
  refine ⟨hP _ rfl, fun kept => ?_⟩
  cases kept with
  | some transport => trivial
  | none =>
    exact (Transport.onBus_poses hP c.site .null .null).bind fun _ => ⟨hP _ rfl, fun _ => trivial⟩

theorem relay_poses (s : Signal) : (c.relay s).Poses (Query.Sends s) := by
  have hquiet := Query.hasQuiet_sends s
  unfold relay
  simp only [bind_eq, pure_eq]
  refine (c.transport_poses hquiet).bind fun transport => ?_
  refine (Transport.publish_poses c.slot s transport).bind fun _ => ?_
  exact (poses_note hquiet.hasIdle _ _ _).bind fun _ => trivial

/-- A message that is refused is not sent. -/
theorem relay_check_poses (s : Signal) :
    ((Act.ofExcept s.check).bind fun s => c.relay s).Poses (Query.Sends s) := by
  cases h : s.check with
  | error e => trivial
  | ok s' =>
    obtain rfl := Signal.eq_of_check h
    exact c.relay_poses s'

end Channel

namespace Function
variable {f : Function} {names : List Text}

theorem success_poses {P : Query → Prop} (hP : Query.HasIdle P) (function : Text)
    (operation : Operation) (data metadata : Object) :
    (success function operation data metadata).Poses P :=
  (poses_now hP).bind fun _ => trivial

theorem wantedIdentity_poses {P : Query → Prop} (hP : Query.HasHarmless P) (service : Service)
    (request : Request) : (wantedIdentity service request).Poses P := by
  unfold wantedIdentity
  simp only [bind_eq, liftM_eq, pure_eq]
  split
  · refine (poses_ofExcept _).bind fun nickname => (poses_ofExcept _).bind fun registry => ?_
    exact (registry.resolveNickname_poses hP nickname).bind fun _ => trivial
  · split
    · exact (poses_ofExcept _).bind fun _ => trivial
    · trivial

theorem recordOf_poses {P : Query → Prop} (hP : Query.HasHarmless P) (service : Service)
    (identity : Value) : (recordOf service identity).Poses P := by
  unfold recordOf
  split
  · exact (poses_ofExcept _).bind fun registry => registry.findRecord_poses hP identity
  · trivial

/-! What each function asks for a request -/

section
variable {P : Query → Prop} {request : Request}

section
variable (hP : Query.HasQuiet P)
  (hsend : ∀ s : Signal, s.sender = .str request.caller → ∀ q : Query, q.Sends s → P q)
include hP hsend

theorem chatAnswer_poses : (chatAnswer.run request).Poses P := by
  simp only [chatAnswer, bind_eq, liftM_eq]
  refine (poses_ofExcept _).bind fun payload => (poses_ofExcept _).bind fun recipient => ?_
  refine (poses_service (hP _ rfl)).bind fun service => (poses_ofExcept _).bind fun channel => ?_
  exact ((channel.relay_check_poses _).mono (hsend _ rfl)).bind fun _ =>
    success_poses hP.hasIdle _ _ _ _

theorem chatOffer_poses : (chatOffer.run request).Poses P := by
  simp only [chatOffer, bind_eq, liftM_eq]
  refine (poses_ofExcept _).bind fun welcome => (poses_ofExcept _).bind fun payload => ?_
  refine (poses_ofExcept _).bind fun recipient => (poses_service (hP _ rfl)).bind fun service => ?_
  refine (poses_ofExcept _).bind fun channel => ?_
  exact ((channel.relay_check_poses _).mono (hsend _ rfl)).bind fun _ =>
    success_poses hP.hasIdle _ _ _ _

end

section
variable (hP : Query.HasIdle P) (hbook : P (.service (.str "contact_book")))
include hP hbook

theorem contactGet_poses (hget : ∀ digest, P (.store (.getContact (.str request.caller) digest)))
    (hquery : P (.store (.queryContacts (.str request.caller)))) :
    (contactGet.run request).Poses P := by
  simp only [contactGet, bind_eq, liftM_eq]
  refine (poses_service hbook).bind fun service => ?_
  split
  · refine (poses_ofExcept _).bind fun address => (poses_ofExcept _).bind fun book => ?_
    refine (book.get_poses hP (hget _)).bind fun record => ?_
    exact (book.contains_poses hP (hget _)).bind fun _ => success_poses hP _ _ _ _
  · refine (poses_ofExcept _).bind fun book => ?_
    exact (book.list_poses hP hquery).bind fun _ => success_poses hP _ _ _ _

theorem contactRemove_poses
    (hdelete : ∀ digest, P (.store (.deleteContact (.str request.caller) digest))) :
    (contactRemove.run request).Poses P := by
  simp only [contactRemove, bind_eq, liftM_eq]
  refine (poses_ofExcept _).bind fun address => (poses_service hbook).bind fun service => ?_
  refine (poses_ofExcept _).bind fun book => ?_
  exact (book.remove_poses hP _ address (hdelete _)).bind fun _ => success_poses hP _ _ _ _

theorem contactUpsert_poses (hput : ∀ item : ContactItem, item.owner = .str request.caller →
    P (.store (.putContact item))) : (contactUpsert.run request).Poses P := by
  simp only [contactUpsert, bind_eq, liftM_eq]
  refine (poses_ofExcept _).bind fun name => (poses_ofExcept _).bind fun address => ?_
  refine (poses_service hbook).bind fun service => (poses_ofExcept _).bind fun book => ?_
  exact (book.upsert_poses hP _ address name fun _ => hput _ rfl).bind fun _ =>
    success_poses hP _ _ _ _

end

variable (hP : Query.HasHarmless P)
include hP

theorem identityGet_poses : (identityGet.run request).Poses P := by
  simp only [identityGet, bind_eq]
  refine (poses_service (hP _ rfl)).bind fun service => ?_
  refine (wantedIdentity_poses hP service request).bind fun wanted => ?_
  refine (recordOf_poses hP service wanted.1).bind fun _ => ?_
  exact success_poses hP.hasQuiet.hasIdle _ _ _ _

theorem identityRegister_poses (hput : ∀ (record : IdentityItem) (binding : BindingItem),
    record.identity = .str request.caller → binding.identity = .str request.caller →
      P (.store (.register record binding))) : (identityRegister.run request).Poses P := by
  simp only [identityRegister, bind_eq, liftM_eq, fail_bind]
  split
  · trivial
  · refine (poses_ofExcept _).bind fun nickname => (poses_ofExcept _).bind fun address => ?_
    refine (poses_service (hP _ rfl)).bind fun service => (poses_ofExcept _).bind fun registry => ?_
    refine (registry.register_poses hP _ nickname address fun _ => hput _ _ rfl rfl).bind ?_
    exact fun _ => success_poses hP.hasQuiet.hasIdle _ _ _ _

end

/-- All that a function writes or sends is in the name of its caller. -/
theorem run_poses (hf : f ∈ all) (request : Request) :
    (f.run request).Poses (Query.IsBy request.caller) := by
  have hharmless := Query.hasHarmless_isBy request.caller
  have hquiet := hharmless.hasQuiet
  have hsend (s : Signal) (hs : s.sender = .str request.caller) (q : Query) (h : q.Sends s) :
      q.IsBy request.caller := h.isBy hs
  simp only [all, List.mem_cons, List.not_mem_nil, or_false] at hf
  rcases hf with rfl | rfl | rfl | rfl | rfl | rfl | rfl
  · exact chatAnswer_poses hquiet hsend
  · exact chatOffer_poses hquiet hsend
  · exact contactGet_poses hquiet.hasIdle trivial (fun _ => trivial) trivial
  · exact contactRemove_poses hquiet.hasIdle trivial fun _ => rfl
  · exact contactUpsert_poses hquiet.hasIdle trivial fun _ => id
  · exact identityGet_poses hharmless
  · exact identityRegister_poses hharmless fun _ _ => And.intro

/-- An answer asks what the function asks for the request, and idle questions besides. -/
theorem answer_poses {P : Query → Prop} (hP : Query.HasIdle P) {event : Value}
    (h : ∀ request, Request.accept (Request.require f.required) event = .ok request →
      (f.run request).Poses P) : (f.handler.answer event).Poses P := by
  unfold Handler.answer
  simp only [bind_eq, liftM_eq, pure_eq, handler]
  refine Poses.bind (Poses.attempt ?_) fun x => ?_
  · cases haccept : Request.accept (Request.require f.required) event with
    | error e => trivial
    | ok request => exact h request haccept
  · split
    · trivial
    · exact Handler.respond_poses hP _ _

/-- A call asks no more than its answer and idle questions. -/
theorem invoke_poses_of_idle {P : Query → Prop} (hP : Query.HasIdle P) {event context : Value}
    (h : ∀ request, Request.accept (Request.require f.required) event = .ok request →
      (f.run request).Poses P) : (f.invoke event context).Poses P := by
  rw [invoke_eq]
  refine (poses_stopwatch hP).bind fun start => (poses_note hP _ _ _).bind fun _ => ?_
  refine Poses.bind ((answer_poses hP h).bind fun response => ?_) fun _ => poses_ofExcept _
  exact (Handler.logEnd_poses hP _ _ _).bind fun _ => trivial

theorem invoke_poses {P : Query → Prop} (hP : Query.HasQuiet P) {event context : Value}
    (h : ∀ request, Request.accept (Request.require f.required) event = .ok request →
      (f.run request).Poses P) : (f.invoke event context).Poses P :=
  invoke_poses_of_idle hP.hasIdle h

end Function

/-! ## The subject of the claims -/

namespace Request
variable {event body : Object}

/-- The subject of the claims that the gateway makes about the caller of an event. -/
def subject (event : Object) : Except Failure Value := (claims event).bind (·.fieldOrNull "sub")

/-- A gateway event with a good body is the request of the subject of its claims. -/
theorem ofEvent_gateway (he : isGatewayEvent (.obj event) = true)
    (hb : gatewayBody event = .ok (.obj body)) : ofEvent (.obj event) =
      (subject event).bind fun sub => (Identity.authenticate sub).map fun caller =>
        ⟨caller, body⟩ := by
  simp only [ofEvent, parts, he, if_true, hb, subject]
  cases hclaims : claims event with
  | error e => rfl
  | ok claims =>
    simp only [Bind.bind, Except.bind]
    cases claims.fieldOrNull "sub" with
    | error e => rfl
    | ok sub =>
      dsimp only [pure, Except.pure, bodyFields]
      cases Identity.authenticate sub <;> rfl

theorem eq_of_authenticate {subject : Value} (h : Identity.authenticate subject = .ok caller) :
    subject = .str caller := by
  unfold Identity.authenticate at h
  split at h
  · split_ifs at h
    rw [Except.ok.inj h]
  · cases h

theorem eq_of_bodyFields {body : Value} {fields : Object} (h : bodyFields body = .ok fields) :
    body = .obj fields := by
  cases body with
  | obj body => rw [Except.ok.inj h]
  | _ => cases h

/-- A request is admitted as it was read. -/
theorem ofEvent_of_accept {required : List Text} {v : Value} {request : Request}
    (h : accept (require required) v = .ok request) : ofEvent v = .ok request := by
  obtain ⟨read, hevent, hrequire⟩ := Except.bind_eq_ok.1 h
  rw [require] at hrequire
  split at hrequire
  · rw [hevent, hrequire]
  · cases hrequire

/-- What a request was read from. -/
theorem parts_of_ofEvent {v : Value} {request : Request} (h : ofEvent v = .ok request) :
    parts v = .ok (.obj request.body, .str request.caller) := by
  obtain ⟨⟨body, subject⟩, hparts, h⟩ := Except.bind_eq_ok.1 h
  obtain ⟨fields, hbody, h⟩ := Except.bind_eq_ok.1 h
  obtain ⟨caller, hcaller, h⟩ := Except.bind_eq_ok.1 h
  obtain rfl := Except.ok.inj h
  rw [hparts, eq_of_bodyFields hbody, eq_of_authenticate hcaller]

/-- A gateway event is read as its body and the subject of its claims. -/
theorem gateway_of_ofEvent (he : isGatewayEvent (.obj event) = true) {request : Request}
    (h : ofEvent (.obj event) = .ok request) : gatewayBody event = .ok (.obj request.body) ∧
      subject event = .ok (.str request.caller) := by
  have hparts := parts_of_ofEvent h
  simp only [parts, he, if_true] at hparts
  obtain ⟨body, hbody, hparts⟩ := Except.bind_eq_ok.1 hparts
  obtain ⟨claims, hclaims, hparts⟩ := Except.bind_eq_ok.1 hparts
  obtain ⟨sub, hsub, hparts⟩ := Except.bind_eq_ok.1 hparts
  obtain ⟨rfl, rfl⟩ := Prod.mk.inj (Except.ok.inj hparts)
  exact ⟨hbody, Except.bind_eq_ok.2 ⟨claims, hclaims, hsub⟩⟩

/-- The subject is found in the request context. -/
theorem subject_congr {event' : Object}
    (h : Object.field? "requestContext" event' = Object.field? "requestContext" event) :
    subject event' = subject event := by
  rw [subject, subject, claims, claims, h]

end Request

namespace Function
variable {f : Function} {names : List Text} {event : Object}

/-- Of a gateway event a function looks only at the fields that it has declared, and at the
    subject of the claims. -/
theorem answer_congr (hf : (f, names) ∈ declares) {event' body body' : Object}
    (he : Request.isGatewayEvent (.obj event) = true)
    (hcontext : Object.field? "requestContext" event' = Object.field? "requestContext" event)
    (hb : Request.gatewayBody event = .ok (.obj body))
    (hb' : Request.gatewayBody event' = .ok (.obj body')) (h : body.SameAt names body') :
    f.handler.answer (.obj event') = f.handler.answer (.obj event) := by
  have he' : Request.isGatewayEvent (.obj event') = true := by
    rw [Request.isGatewayEvent, Object.has, hcontext]
    exact he
  have hrun : (ofExcept (Request.accept (Request.require f.required) (.obj event'))).bind f.run =
      (ofExcept (Request.accept (Request.require f.required) (.obj event))).bind f.run := by
    rw [Request.accept, Request.accept, Request.ofEvent_gateway he hb,
      Request.ofEvent_gateway he' hb', Request.subject_congr hcontext]
    cases Request.subject event with
    | error e => rfl
    | ok sub =>
      simp only [Except.bind]
      cases Identity.authenticate sub with
      | error e => rfl
      | ok caller => exact require_run_sameAt hf h caller
  unfold Handler.answer
  simp only [bind_eq, liftM_eq, handler]
  rw [hrun]

/-- **No gateway event speaks for anybody but the subject of its claims.**  Two events with the same
    request context, whose bodies are the same where the function looks, are answered alike, and
    the same is written and sent for them.  Whatever is written or sent for an event is in the name
    of the subject of its claims. -/
theorem gateway_speaks_for_subject (hf : (f, names) ∈ declares)
    (he : Request.isGatewayEvent (.obj event) = true) (context : Value) (w : World) :
    (∀ (event' body body' : Object) (context' : Value),
      Object.field? "requestContext" event' = Object.field? "requestContext" event →
      Request.gatewayBody event = .ok (.obj body) →
      Request.gatewayBody event' = .ok (.obj body') → body.SameAt names body' →
      let one := (f.invoke (.obj event) context).run w
      let other := (f.invoke (.obj event') context').run w
      other.1 = one.1 ∧ other.2.tables = one.2.tables ∧ other.2.published = one.2.published) ∧
    ∀ q ∈ (f.invoke (.obj event) context).asked w, q.isHarmless = false →
      ∃ sub, Request.subject event = .ok (.str sub) ∧ q.IsBy sub := by
  constructor
  · intro event' body body' context' hcontext hb hb' hsame one other
    obtain ⟨entry, hone⟩ := invoke_run_eq f (.obj event) context w
    obtain ⟨entry', hother⟩ := invoke_run_eq f (.obj event') context' w
    have hserved (start : Value) : f.served (.obj event') start = f.served (.obj event) start := by
      rw [served, served, answer_congr hf he hcontext hb hb' hsame]
    have hdeliver (response : Value) : Handler.deliver (.obj event') response =
        Handler.deliver (.obj event) response := by
      rw [Handler.deliver, Handler.deliver, Request.isGatewayEvent, Request.isGatewayEvent,
        Object.has, Object.has, hcontext]
    -- the two runs have logged their events before they come to the same program
    have hlogs : (w.readStopwatch.2.log entry).AgreesWith (w.readStopwatch.2.log entry') := rfl
    obtain ⟨hresponse, hworld⟩ := (f.served (.obj event) w.readStopwatch.1).run_agrees hlogs
    obtain ⟨lines, hlines⟩ := World.AgreesWith.iff_exists.1 hworld
    simp only [one, other, hone, hother, hserved, funext hdeliver, hresponse, hlines, and_self]
  · have hquiet : Query.HasQuiet fun q => q.isHarmless = false →
        ∃ sub, Request.subject event = .ok (.str sub) ∧ q.IsBy sub := by
      intro q hq hno
      rw [Query.isHarmless_of_isQuiet hq] at hno
      cases hno
    refine (invoke_poses hquiet fun request haccept => ?_).asked w
    refine (run_poses (mem_all_of_declares hf) request).mono fun q hq _ => ⟨request.caller, ?_, hq⟩
    exact (Request.gateway_of_ofEvent he (Request.ofEvent_of_accept haccept)).2

/-- The gateway event of a removal that names others than its caller wherever it can. -/
def forgedRemoval : Object :=
  [("caller", .str "bob"), ("caller_identity", .str "bob"),
   ("body", .str "\x7b\"owner\": \"bob\", \"caller\": \"bob\", \"addr\": \"0x01\"\x7d"),
   ("requestContext", .obj [("authorizer", .obj [("claims", .obj [("sub", .str "ann")])])]),
   ("parsed_body", .obj [("addr", .str "0x02")])]

/-- It is a removal of the subject of its claims like any other. -/
theorem forgedRemoval_is_anns : (contactRemove, [Text.ofString "addr"]) ∈ declares ∧
    Request.isGatewayEvent (.obj forgedRemoval) = true ∧
    ((contactRemove.invoke (.obj gatewayRemoval) .null).run blankWorld).1 =
      ((contactRemove.invoke (.obj forgedRemoval) .null).run blankWorld).1 ∧
    ∃ q ∈ (contactRemove.invoke (.obj forgedRemoval) .null).asked blankWorld,
      q.isHarmless = false ∧ q.IsBy "ann" := by
  have hf : (contactRemove, [Text.ofString "addr"]) ∈ declares := by simp [declares]
  have hb : Request.gatewayBody forgedRemoval =
      .ok (.obj [("owner", .str "bob"), ("caller", .str "bob"), ("addr", .str "0x01")]) := rfl
  have hb' : Request.gatewayBody gatewayRemoval = .ok (.obj removal) := rfl
  have hsame : Object.SameAt [Text.ofString "addr"]
      [("owner", .str "bob"), ("caller", .str "bob"), ("addr", .str "0x01")] removal := by
    intro name hname
    obtain rfl := List.mem_singleton.1 hname
    rfl
  obtain ⟨hother, hby⟩ := @gateway_speaks_for_subject _ _ forgedRemoval hf rfl .null blankWorld
  refine ⟨hf, rfl, (hother gatewayRemoval _ _ .null rfl hb hb' hsame).1, ?_⟩
  obtain ⟨q, hq, hno⟩ : ∃ q ∈ (contactRemove.invoke (.obj forgedRemoval) .null).asked blankWorld,
      (!q.isHarmless) = true := List.any_eq_true.1 rfl
  have hno : q.isHarmless = false := by simpa using hno
  obtain ⟨sub, hsub, hq'⟩ := hby q hq hno
  obtain rfl : sub = "ann" := by
    have hann : Request.subject forgedRemoval = .ok (.str "ann") := rfl
    rw [hann] at hsub
    simpa using hsub.symm
  exact ⟨q, hq, hno, hq'⟩

end Function

end Rendezvous
