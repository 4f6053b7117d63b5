/-
  No request provokes a failure of the service.

  Where nothing goes wrong and the tables come of calls of the functions, the only failures are
  those that a request has to answer for, whatever is in it.

  * `World.IsServing`: nothing goes wrong in a world; `Function.Fares`: a function is carried out, or
    its failure is a complaint, or a key of a registration is taken;
  * `Function.run_fares`: so does every function at every admitted request;
  * `Request.IsAuthentic`: an event with a good caller; `Request.accept_complains`: it is admitted, or
    there is a complaint about it;
  * `Function.invoke_isDue`: how every authentic event is answered.
-/
import Rendezvous.Proofs.Containment
import Rendezvous.Proofs.Lookup
import Rendezvous.Proofs.Registering

namespace Rendezvous

open Act Scene

/-! ## Worlds -/

/-- A world where nothing goes wrong: no call fails, the stopwatch reads numbers, the services under
    their names are what they should be, and the event bus accepts what is put on it. -/
structure World.IsServing (w : World) : Prop where
  quiet : w.IsQuiet
  timed : w.IsTimed
  replies : ∀ reply ∈ w.replies, Plainly (fun v => Json.isPlain v = true) reply
  transports : ∀ entry ∈ w.transports, entry.2.IsPlain
  registry : ∃ n r, (w.container.resolve (.str "identity_registry")).1 = .ok (n, .registry r)
  book : ∃ n b, (w.container.resolve (.str "contact_book")).1 = .ok (n, .contactBook b)
  sends : ∃ bus source, w.SendsOver bus source
  accepts : Transport.accepts w.nextReply = true

namespace World.IsServing
variable {w : World} (h : w.IsServing)
include h

/-- Nothing there holds bytes where they would be told, if the tables come of calls. -/
theorem plain (ht : Function.Reaches w.tables) : w.IsPlain where
  readings := h.timed
  bindings := ht.bindsPlain
  intruders := h.quiet.alone ▸ List.forall_mem_nil _
  faults := h.quiet.faultless ▸ List.forall_mem_nil _
  replies := h.replies
  transports := h.transports

/-- Nothing goes wrong in a world where an event has been logged. -/
theorem begun (entry : Log.Entry) :
    (w.readStopwatch.2.log entry).IsServing ∧
      (w.readStopwatch.2.log entry).tables = w.tables := by
  have htimed : (w.readStopwatch.2.log entry).IsTimed := h.timed.readStopwatch.2
  obtain ⟨bus, source, hsends⟩ := h.sends
  have hsame : w.readStopwatch.2 = { w with readings := w.readStopwatch.2.readings } := by
    unfold World.readStopwatch
    split <;> rfl
  rw [hsame] at htimed ⊢
  exact ⟨⟨⟨h.quiet.faultless, h.quiet.alone, h.quiet.dated⟩, htimed, h.replies, h.transports,
    h.registry, h.book, ⟨bus, source, hsends.of_same rfl rfl rfl⟩, h.accepts⟩, rfl⟩

end World.IsServing

/-- A key of a registration is taken. -/
def Failure.IsTaken (e : Failure) : Prop :=
  ∃ v, e = .service (.identityTaken v) ∨ e = .service (.nicknameTaken v)

namespace Function

/-- How a function ends where nothing goes wrong: the request is carried out, or it has to answer for
    the failure. -/
def Fares (f : Function) (x : Except Failure Value) : Prop :=
  match x with
  | .ok response => Response.succeeded response = true
  | .error e => e.IsComplaint ∨ f = identityRegister ∧ e.IsTaken

variable {α : Type} {f : Function} {w : World} {request : Request} {k : α → Act Value}

/-! ## Rules -/

theorem fares_ofExcept {x : Except Failure α} (hx : Complains x)
    (h : ∀ a, x = .ok a → Fares f ((k a).run w).1) : Fares f (((Act.ofExcept x).bind k).run w).1 := by
  cases x with
  | ok a => exact h a rfl
  | error e => exact Or.inl (hx e rfl)

theorem fares_bind {act : Act α} {a : α} (ha : (act.run w).1 = .ok a)
    (h : Fares f ((k a).run (act.run w).2).1) : Fares f ((act.bind k).run w).1 := by
  rw [run_bind]
  rcases hrun : act.run w with ⟨x, w'⟩
  rw [hrun] at ha h
  obtain rfl : x = .ok a := ha
  exact h

theorem fares_fails {act : Act α} {e : Failure} (ha : (act.run w).1 = .error e)
    (he : e.IsComplaint ∨ f = identityRegister ∧ e.IsTaken) :
    Fares f ((act.bind k).run w).1 := by
  rw [run_bind]
  rcases hrun : act.run w with ⟨x, w'⟩
  rw [hrun] at ha
  obtain rfl : x = .error e := ha
  exact he

theorem fares_success (function : Text) (operation : Operation) (data metadata : Object) :
    Fares f ((success function operation data metadata).run w).1 :=
  rfl

theorem fares_service (hq : w.IsQuiet) {name : Text} {n : Nat} {service : Service}
    {k : Service → Act Value}
    (hresolve : (w.container.resolve (.str name)).1 = .ok (n, service))
    (h : ∀ w' : World, w'.IsQuiet → w'.tables = w.tables → Fares f ((k service).run w').1) :
    Fares f (((Act.service name).bind k).run w).1 := by
  have hservice : (Act.service name).run w = (.ok service, (w.resolve (.str name)).2) := by
    have hreply : w.reply (.service (.str name)) =
        ((w.container.resolve (.str name)).1.map (·.2), (w.resolve (.str name)).2) := rfl
    rw [Act.service, run_ask, hreply, hresolve]
    rfl
  refine fares_bind (a := service) (by rw [hservice]) ?_
  rw [hservice]
  exact h _ ⟨hq.faultless, hq.alone, hq.dated⟩ rfl

/-! ## Functions -/

section
variable (hw : w.IsServing) (ht : w.tables.Sound) (request : Request)
include hw

theorem contactUpsert_fares : Fares f ((contactUpsert.run request).run w).1 := by
  simp only [contactUpsert, bind_eq, liftM_eq]
  refine fares_ofExcept (Field.bytesIn_complains _ (by decide) rfl) fun name hname => ?_
  refine fares_ofExcept (Field.bytesIn_complains _ (by decide) rfl) fun address haddress => ?_
  obtain ⟨n, book, hresolve⟩ := hw.book
  refine fares_service hw.quiet hresolve fun w₁ hquiet h1 => ?_
  have hlength : name.length = Field.contactName.width :=
    Field.length_of_bytesIn (by decide) rfl hname
  have hlength' : address.length = Field.contactAddress.width :=
    Field.length_of_bytesIn (by decide) rfl haddress
  simp only [Service.asContactBook, ofExcept_ok, done_bind]
  obtain ⟨record, hrecord, -⟩ := Ends.run hquiet
    (book.upsert_ends ⟨⟨request.caller, address, hlength'⟩, name, hlength⟩)
  exact fares_bind hrecord (fares_success _ _ _ _)

theorem contactRemove_fares : Fares f ((contactRemove.run request).run w).1 := by
  simp only [contactRemove, bind_eq, liftM_eq]
  refine fares_ofExcept (Field.bytesIn_complains _ (by decide) rfl) fun address haddress => ?_
  obtain ⟨n, book, hresolve⟩ := hw.book
  refine fares_service hw.quiet hresolve fun w₁ hquiet h1 => ?_
  simp only [Service.asContactBook, ofExcept_ok, done_bind]
  obtain ⟨_, hremoved, -⟩ := Ends.run hquiet (book.remove_ends request.caller address)
  exact fares_bind hremoved (fares_success _ _ _ _)

include ht

theorem contactGet_fares : Fares f ((contactGet.run request).run w).1 := by
  simp only [contactGet, bind_eq, liftM_eq]
  obtain ⟨n, book, hresolve⟩ := hw.book
  refine fares_service hw.quiet hresolve fun w₁ hquiet h1 => ?_
  have hfiled : w₁.tables.Filed := h1 ▸ ht.filed
  split
  · refine fares_ofExcept (Field.bytesIn_complains _ (by decide) rfl) fun address haddress => ?_
    simp only [Service.asContactBook, ofExcept_ok, done_bind]
    obtain ⟨record, hrecord, -, hkept⟩ := Ends.run hquiet
      (book.get_ends (s := ⟨w₁, []⟩) hfiled Troubles.areTold_quiet request.caller address)
    refine fares_bind hrecord ?_
    have hquiet₂ := hquiet.run (book.get (.str request.caller) address)
    generalize ((book.get (.str request.caller) address).run w₁).2 = w₂ at hkept hquiet₂ ⊢
    have hfiled : w₂.tables.Filed := hkept ▸ hfiled
    obtain ⟨present, hpresent, -⟩ := Ends.run hquiet₂
      (book.contains_ends (s := ⟨w₂, []⟩) hfiled Troubles.areTold_quiet request.caller address)
    exact fares_bind hpresent (fares_success _ _ _ _)
  · simp only [Service.asContactBook, ofExcept_ok, done_bind]
    obtain ⟨contacts, hcontacts, -⟩ :=
      Ends.run hquiet (book.list_ends (s := ⟨w₁, []⟩) hfiled request.caller)
    exact fares_bind hcontacts (fares_success _ _ _ _)

theorem identityGet_fares : Fares f ((identityGet.run request).run w).1 := by
  simp only [identityGet, bind_eq]
  obtain ⟨n, registry, hresolve⟩ := hw.registry
  refine fares_service hw.quiet hresolve fun w₁ hquiet h1 => ?_
  have hpaired : w₁.tables.Paired := h1 ▸ ht.paired
  -- whichever way the identity is found, its record can be read
  have hrecord (wanted : Value × Text) {w' : World} (hq : w'.IsQuiet) (hp : w'.tables.Paired)
      (hwanted : wanted.1 = .null ∨ ∃ identity, wanted.1 = .str identity) :
      Fares f (((recordOf (.registry registry) wanted.1).bind fun found =>
        success "identity-get" .getIdentity [("record", .obj
          ((found.getD AddressRecord.empty).toObject wanted.1 (.bool found.isSome)))]
          [("lookup", .str wanted.2)]).run w').1 := by
    obtain ⟨found, hfound⟩ :
        ∃ found, ((recordOf (.registry registry) wanted.1).run w').1 = .ok found := by
      unfold recordOf
      simp only [bind_eq, liftM_eq, pure_eq]
      split
      · obtain hnull | ⟨identity, hidentity⟩ := hwanted
        · rename_i htruthy
          rw [hnull] at htruthy
          cases htruthy
        · rw [hidentity]
          obtain ⟨found, hfound, -⟩ := Ends.run hq
            (registry.findRecord_ends (s := ⟨w', []⟩) Troubles.areTold_quiet hp identity)
          exact ⟨found, hfound⟩
      · exact ⟨none, rfl⟩
    exact fares_bind hfound (fares_success _ _ _ _)
  unfold wantedIdentity
  simp only [bind_eq, liftM_eq, pure_eq]
  split
  · simp only [Act.bind_assoc, done_bind]
    refine fares_ofExcept (Field.nickname_complains _) fun nickname _ => ?_
    simp only [Service.asRegistry, ofExcept_ok, done_bind]
    obtain ⟨owner, howner, rfl, hkept⟩ := Ends.run hquiet
      (registry.resolveNickname_ends (s := ⟨w₁, []⟩) Troubles.areTold_quiet hpaired.legible nickname)
    refine fares_bind howner (hrecord (_, "nickname") (hquiet.run _) (hkept ▸ hpaired) ?_)
    rcases hpaired.legible.owner nickname with ⟨-, hnobody⟩ | ⟨-, identity, hsomebody⟩
    · exact Or.inl hnobody
    · exact Or.inr ⟨identity, hsomebody⟩
  · split
    · simp only [Act.bind_assoc, done_bind]
      refine fares_ofExcept (Identity.validate_complains _ _) fun identity _ => ?_
      exact hrecord (.str identity, "identity") hquiet hpaired (Or.inr ⟨identity, rfl⟩)
    · exact hrecord (.str request.caller, "identity") hquiet hpaired (Or.inr ⟨_, rfl⟩)

theorem identityRegister_fares (hf : f = identityRegister) :
    Fares f ((identityRegister.run request).run w).1 := by
  simp only [identityRegister, bind_eq, liftM_eq, fail_bind]
  split
  · exact Or.inl (Failure.isComplaint_atField _ _)
  · refine fares_ofExcept (Field.nickname_complains _) fun nickname hnickname => ?_
    refine fares_ofExcept (Field.bytesIn_complains _ (by decide) rfl) fun address haddress => ?_
    obtain ⟨n, registry, hresolve⟩ := hw.registry
    refine fares_service hw.quiet hresolve fun w₁ hquiet h1 => ?_
    simp only [Service.asRegistry, ofExcept_ok, done_bind]
    have hlength := Field.length_of_nickname hnickname
    have hlength' : address.length = Field.address.width :=
      Field.length_of_bytesIn (by decide) rfl haddress
    obtain ⟨hverdict, -⟩ := Registry.register_run registry hquiet (h1 ▸ ht.paired)
      (a := ⟨request.caller, nickname, address, hlength, hlength'⟩)
    -- the verdict of the tables is a record, or one of the keys is taken
    unfold Tables.verdict at hverdict
    split_ifs at hverdict
    · exact fares_fails hverdict (Or.inr ⟨hf, _, Or.inl rfl⟩)
    · exact fares_fails hverdict (Or.inr ⟨hf, _, Or.inr rfl⟩)
    · exact fares_bind hverdict (fares_success _ _ _ _)

end

/-- A field that is required is there. -/
theorem exists_field_of_require {required : List Text} {name : Text} (hn : name ∈ required)
    (h : Request.require required request = .ok request) :
    ∃ v, Object.field? name request.body = some v := by
  unfold Request.require at h
  split at h
  · rename_i hnone
    have hthere : Field.isMissing request.body name = false := by
      simpa using List.filter_eq_nil_iff.1 hnone name hn
    unfold Field.isMissing at hthere
    cases hfield : Object.field? name request.body with
    | some v => exact ⟨v, rfl⟩
    | none => rw [hfield] at hthere; cases hthere
  · cases h

theorem recipientOf_complains (h : ∃ v, Object.field? "to" request.body = some v) :
    Complains (recipientOf request) := by
  obtain ⟨v, hv⟩ := h
  have hto : (Value.obj request.body).fieldAt "to" = .ok v := by
    simp only [Value.fieldAt, Value.fields, Except.bind, hv]
  simp only [recipientOf, hto]
  exact Identity.validate_complains _ v

theorem chat_fares (hw : w.IsServing) (kind : SignalKind)
    (hrequire : Request.require kind.function.required request = .ok request) :
    Fares f ((kind.function.run request).run w).1 := by
  have hto : ∃ v, Object.field? "to" request.body = some v := by
    refine exists_field_of_require ?_ hrequire
    cases kind <;> simp [SignalKind.function, chatOffer, chatAnswer]
  rw [SignalKind.run_eq]
  have hcomplains := read_failsBy (fun _ => id) (recipientOf_complains hto) kind
  refine fares_ofExcept hcomplains fun signal hread => ?_
  obtain ⟨rfl, recipient, hasks⟩ := SignalKind.read_eq_ok_iff.1 hread
  obtain ⟨bus, source, hsends⟩ := hw.sends
  obtain ⟨-, hsent, -⟩ := ensures_run_actual (SignalKind.send_ensures (s := ⟨w, []⟩) hsends hasks)
  rw [hsent hw.accepts]
  rfl

/-- Where nothing goes wrong, an admitted request is carried out, or it has to answer for it. -/
theorem run_fares (hf : f ∈ all) (hw : w.IsServing) (ht : w.tables.Sound)
    (hrequire : Request.require f.required request = .ok request) :
    Fares f ((f.run request).run w).1 := by
  simp only [all, List.mem_cons, List.not_mem_nil, or_false] at hf
  rcases hf with rfl | rfl | rfl | rfl | rfl | rfl | rfl
  exacts [chat_fares hw .answer hrequire, chat_fares hw .offer hrequire,
    contactGet_fares hw ht request, contactRemove_fares hw request,
    contactUpsert_fares hw request, identityGet_fares hw ht request,
    identityRegister_fares hw ht request rfl]

end Function

/-! ## Events -/

namespace Request

/-- An event with a good caller: the gateway vouches for it, or the event names it itself.  The body
    of a gateway event is not nested too deeply to be read. -/
inductive IsAuthentic : Value → Prop
  | gateway {event context : Object} {caller : Text} :
    event.field? "requestContext" = some (.obj context) → Vouches caller context →
    Identity.IsCaller caller →
    (∀ t, event.field? "body" = some (.str t) → Json.parse t ≠ .error .tooDeep) →
    IsAuthentic (.obj event)
  | direct {event : Object} {caller : Text} : event.has "requestContext" = false →
    event.field? "caller" = some (.str caller) → Identity.IsCaller caller →
    IsAuthentic (.obj event)

theorem gatewayBody_complains {event : Object}
    (h : ∀ t, event.field? "body" = some (.str t) → Json.parse t ≠ .error .tooDeep) :
    Complains (gatewayBody event) := by
  unfold gatewayBody
  split
  · exact .ok _
  · rename_i t _ hbody
    have hdepth : Json.parse t ≠ .error .tooDeep := by
      refine h t ?_
      rw [Object.fieldOrNull] at hbody
      cases hfield : Object.field? "body" event with
      | none => rw [hfield] at hbody; cases hbody
      | some v => rw [hfield] at hbody; exact congrArg some hbody
    cases hparse : Json.parse t with
    | ok v => exact .ok v
    | error refusal =>
      refine .error ?_
      cases refusal with
      | malformed => exact Failure.isComplaint_atField _ _
      | hugeInteger digits => trivial
      | tooDeep => exact (hdepth hparse).elim
  · exact .ok _

/-- Such an event is admitted, or there is a complaint about it. -/
theorem accept_complains {event : Value} (h : IsAuthentic event) (required : List Text) :
    Complains (accept (require required) event) := by
  refine FailsBy.bind ?_ fun request => require_complains required request
  -- the caller is known, so that only the body may be refused
  have hbody (body : Except Failure Value) {caller : Text} (hc : Identity.IsCaller caller)
      (hparts : parts event = body.bind fun body => .ok (body, .str caller))
      (hcomplains : Complains body) : Complains (ofEvent event) := by
    have hevent : ofEvent event = body.bind fun body => (bodyFields body).bind fun fields =>
        .ok ⟨caller, fields⟩ := by
      rw [ofEvent, hparts]
      cases body with
      | error e => rfl
      | ok body =>
        simp only [Bind.bind, Except.bind]
        cases bodyFields body with
        | error e => rfl
        | ok fields => simp only [hc.authenticate]; rfl
    rw [hevent]
    exact hcomplains.bind fun body => (bodyFields_complains body).bind fun fields => .ok _
  cases h with
  | @gateway event context caller hcontext hvouches hc hdepth =>
    obtain ⟨claims, hclaims, hsub⟩ := hvouches.claims hcontext
    refine hbody (gatewayBody event) hc ?_ (gatewayBody_complains hdepth)
    have hgateway : isGatewayEvent (.obj event) = true := by
      rw [isGatewayEvent, Object.has, hcontext]
      rfl
    simp only [parts, hgateway, if_true, hclaims]
    cases gatewayBody event with
    | error e => rfl
    | ok body =>
      simp only [Bind.bind, Except.bind, Value.fieldOrNull, Value.fields, Except.map, Object.fieldOrNull,
        hsub]
      rfl
  | @direct event caller hdirect hcaller hc =>
    refine hbody (.ok (.obj event)) hc ?_ (.ok _)
    have hgateway : isGatewayEvent (.obj event) = false := hdirect
    simp only [parts, hgateway, Object.fieldOrNull, hcaller]
    rfl

/-- An admitted request lacks nothing. -/
theorem require_of_accept {required : List Text} {event : Value} {request : Request}
    (h : accept (require required) event = .ok request) : require required request = .ok request := by
  rw [accept, ofEvent_of_accept h] at h
  exact h

end Request

/-! ## Answers -/

/-- The response to a failure, at the time of the world. -/
theorem Handler.respond_run (function : Text) (e : Failure) (w : World) :
    ((respond function e).run w).1 = .ok (told function w.clock e) := by
  cases e with
  | service e => cases e <;> rfl
  | _ => rfl

namespace Function
variable {f : Function} {w : World} {event : Value}

/-- An event is answered with the response to the request that is read from it, or with what is told
    of the failure. -/
theorem answer_run (f : Function) (event : Value) (w : World) : ∃ response,
    ((f.handler.answer event).run w).1 = .ok response ∧
      let x := (((Act.ofExcept (Request.accept (Request.require f.required) event)).bind f.run).run w).1
      (x = .ok response ∨ ∃ e now, x = .error e ∧ response = Handler.told handlerName now e) := by
  unfold Handler.answer
  simp only [bind_eq, liftM_eq, handler]
  generalize (Act.ofExcept (Request.accept (Request.require f.required) event)).bind f.run = act
  rw [run_bind, run_attempt]
  rcases act.run w with ⟨e | response, w'⟩
  · exact ⟨_, Handler.respond_run _ _ _, Or.inr ⟨e, _, rfl, rfl⟩⟩
  · exact ⟨response, rfl, Or.inl rfl⟩

/-- The response of a call is that of its answer. -/
theorem answer_of_served {start response : Value}
    (h : ((f.served event start).run w).1 = .ok response) :
    ((f.handler.answer event).run w).1 = .ok response := by
  rw [served, run_bind] at h
  rcases hanswer : (f.handler.answer event).run w with ⟨e | answered, w'⟩
  · rw [hanswer] at h
    cases h
  · rw [hanswer] at h
    dsimp only at h
    rw [run_bind] at h
    rcases hlog : (Handler.logEnd handlerName start answered).run w' with ⟨e | u, w''⟩
    · rw [hlog] at h
      cases h
    · rw [hlog] at h
      exact h

/-- What is delivered is the response to the event, once it has been logged. -/
theorem answer_of_invoke {context answer : Value}
    (h : ((f.invoke event context).run w).1 = .ok answer) : ∃ entry response,
      ((f.handler.answer event).run (w.readStopwatch.2.log entry)).1 = .ok response ∧
      Handler.deliver event response = .ok answer := by
  obtain ⟨entry, hinvoke⟩ := invoke_run_eq f event context w
  rw [hinvoke] at h
  dsimp only at h
  cases hserved : ((f.served event w.readStopwatch.1).run (w.readStopwatch.2.log entry)).1 with
  | error e =>
    rw [hserved] at h
    cases h
  | ok response =>
    rw [hserved] at h
    exact ⟨entry, response, answer_of_served hserved, h⟩

/-- A response tells of success, or of a failure that the request has to answer for. -/
def IsDue (f : Function) (response : Value) : Prop :=
  Response.succeeded response = true ∨ Response.succeeded response = false ∧
    (Response.code response = .str ErrorCode.validation.text ∨ f = identityRegister ∧
      (Response.code response = .str ErrorCode.identityTaken.text ∨
        Response.code response = .str ErrorCode.nicknameTaken.text))

theorem Fares.isDue_told {e : Failure} (h : Fares f (.error e)) (now : Instant) :
    IsDue f (Handler.told handlerName now e) := by
  refine Or.inr ⟨Handler.succeeded_told _ _ _, ?_⟩
  have hcode (e : ServiceError) : Response.code (Handler.told handlerName now (.service e)) = e.code := by
    rw [Handler.told, (Handler.read_markRetryable _ _).2, Response.code_failed]
  obtain hcomplaint | ⟨hf, v, rfl | rfl⟩ := h
  · cases e with
    | service e =>
      obtain ⟨message, field, value, hints, rfl⟩ := hcomplaint
      exact Or.inl (hcode _)
    | unusable reason => exact Or.inl rfl
    | _ => exact hcomplaint.elim
  · exact Or.inr ⟨hf, Or.inl (hcode _)⟩
  · exact Or.inr ⟨hf, Or.inr (hcode _)⟩

/-- **No request provokes a failure of the service.**  Where nothing goes wrong and the tables come of
    calls of the functions, every event with a good caller is answered, and its response tells of
    success or of a failure that the request has to answer for. -/
theorem invoke_isDue (hf : f ∈ all) (hw : w.IsServing) (ht : Reaches w.tables)
    (he : Request.IsAuthentic event) (context : Value) : ∃ answer response,
      ((f.invoke event context).run w).1 = .ok answer ∧
      Handler.deliver event response = .ok answer ∧ IsDue f response := by
  obtain ⟨answer, hanswer, -⟩ | ⟨e, -, hno⟩ := (invoke_returns hf event context).run (hw.plain ht)
  · obtain ⟨entry, response, hanswered, hdeliver⟩ := answer_of_invoke hanswer
    refine ⟨answer, response, hanswer, hdeliver, ?_⟩
    obtain ⟨hserving, htables⟩ := hw.begun entry
    obtain ⟨response', hanswered', hx⟩ := answer_run f event (w.readStopwatch.2.log entry)
    obtain rfl : response' = response := Except.ok.inj (hanswered'.symm.trans hanswered)
    have hfares := fares_ofExcept (k := f.run) (Request.accept_complains he f.required)
      fun request haccept => run_fares hf hserving (htables ▸ ht.sound)
        (Request.require_of_accept haccept)
    obtain hx | ⟨e, now, hx, rfl⟩ := hx
    · rw [hx] at hfares
      exact Or.inl hfares
    · rw [hx] at hfares
      exact hfares.isDue_told now
  · exact hno.elim

/-- A world after a registration. -/
def enrolledWorld : World :=
  { blankWorld with tables := ((identityRegister.invoke enrolment .null).run blankWorld).2.tables }

theorem enrolledWorld_reached : Reaches enrolledWorld.tables := by
  have hf : identityRegister ∈ all := by simp [all]
  have htables : enrolledWorld.tables =
      ((identityRegister.invoke enrolment .null).run blankWorld).2.tables := by rw [enrolledWorld]
  rw [htables]
  exact .invoked enrolment .null hf .start
    ⟨rfl, by decide, List.forall_mem_nil _, fun _ hreply => (List.not_mem_nil hreply).elim⟩

theorem enrolledWorld_isServing : enrolledWorld.IsServing := by
  have htimed : enrolledWorld.IsTimed := List.forall_mem_nil _
  exact ⟨⟨rfl, rfl, by decide⟩, htimed, List.forall_mem_nil _, List.forall_mem_nil _,
    ⟨_, _, rfl⟩, ⟨_, _, rfl⟩, ⟨_, _, 0, _, rfl, .made rfl rfl rfl rfl⟩, rfl⟩

/-- Whoever registers once more has to answer for it. -/
theorem enrolment_isDue : identityRegister ∈ all ∧ enrolledWorld.IsServing ∧
    Reaches enrolledWorld.tables ∧ Request.IsAuthentic enrolment ∧
    (∃ answer, ((identityRegister.invoke enrolment .null).run enrolledWorld).1 = .ok answer ∧
      Response.code answer = .str ErrorCode.identityTaken.text) ∧
    ∃ answer response, ((identityRegister.invoke enrolment .null).run enrolledWorld).1 = .ok answer ∧
      Handler.deliver enrolment response = .ok answer ∧ IsDue identityRegister response := by
  have hf : identityRegister ∈ all := by simp [all]
  have he : Request.IsAuthentic enrolment := .direct rfl rfl ⟨rfl, rfl⟩
  exact ⟨hf, enrolledWorld_isServing, enrolledWorld_reached, he, ⟨_, rfl, rfl⟩,
    invoke_isDue hf enrolledWorld_isServing enrolledWorld_reached he .null⟩

end Function

end Rendezvous
