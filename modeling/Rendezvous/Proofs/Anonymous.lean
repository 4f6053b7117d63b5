/-
  Gateway events whose callers are not known.

  The body of an event is read before its caller is looked for.  What a client without a valid
  subject is told depends on that: only where the body is an object, it is told that it is not
  known.

  * `Request.NestsClaims`: the claims of an event can be read; `Request.IsAnonymous`: their subject
    is no caller;
  * `Request.anonymousCode`: what such an event is blamed for;
  * `Function.anonymous_refused`: how every function answers it.
-/
import Rendezvous.Proofs.Hosting
import Rendezvous.Proofs.Provocation
import Rendezvous.Proofs.Snapshot

namespace Rendezvous

open Act

/-! ## Responses -/

namespace Handler

/-- What is told of a plain failure can be written. -/
theorem isWritable_told (function : Text) (now : Instant) {e : Failure} (h : e.IsPlain) :
    Response.IsWritable (told function now e) := by
  have hw : { blankWorld with clock := now }.IsPlain := by
    constructor <;> exact List.forall_mem_nil _
  obtain ⟨response, hrun, hwritable⟩ | ⟨e, -, hno⟩ := (respond_returns function h).run hw
  · rw [respond_run] at hrun
    exact Except.ok.inj hrun ▸ hwritable
  · exact hno.elim

theorem code_told_service (function : Text) (now : Instant) (e : ServiceError) :
    Response.code (told function now (.service e)) = e.code := by
  rw [told, (read_markRetryable _ _).2, Response.code_failed]

end Handler

/-! ## Claims -/

namespace Request

/-- The places that are looked up in an event on the way to its claims. -/
def claimPaths : List (List Text) :=
  [["requestContext"], ["requestContext", "authorizer"], ["requestContext", "authorizer", "claims"],
   ["requestContext", "authorizer", "jwt"], ["requestContext", "authorizer", "jwt", "claims"]]

/-- Whatever is on the way to the claims of an event is an object, or absent. -/
def NestsClaims (event : Object) : Prop :=
  ∀ path ∈ claimPaths, ∀ v, Value.at? path (.obj event) = some v → ∃ fields, v = .obj fields

/-- The subject of the claims is no caller: it is absent or no text, blank, or has blanks around
    it. -/
def IsAnonymous (event : Object) : Prop :=
  ∀ caller, Identity.IsCaller caller → subject event ≠ .ok (.str caller)

/-- What an event without a caller is blamed for: its body, unless that is an object. -/
def anonymousCode (event : Object) : ErrorCode :=
  match gatewayBody event with
  | .ok (.obj _) => .authentication
  | .error (.defect _ _) => .internal
  | _ => .validation

variable {event : Object}

/-- A step on the way to the claims leads to an object, an empty one where there is none. -/
theorem NestsClaims.step (h : NestsClaims event) (path : List Text) (name : Text) {o : Object}
    (ho : Value.at? path (.obj event) = some (.obj o) ∨ o = [])
    (hpath : path ++ [name] ∈ claimPaths) :
    ∃ fields, (o.fieldOrNull name).orEmpty = .obj fields ∧
      (o.field? name).getD .empty = .obj fields ∧
      (Value.at? (path ++ [name]) (.obj event) = some (.obj fields) ∨ fields = []) := by
  rw [Object.fieldOrNull]
  cases hfield : o.field? name with
  | none => exact ⟨[], rfl, rfl, Or.inr rfl⟩
  | some v =>
    rcases ho with ho | rfl
    · have hat : Value.at? (path ++ [name]) (.obj event) = some v := by
        rw [Value.at?_append, ho]
        simp [Value.at?, hfield]
      obtain ⟨fields, rfl⟩ := h _ hpath v hat
      cases fields with
      | nil => exact ⟨[], rfl, rfl, Or.inr rfl⟩
      | cons entry fields => exact ⟨_, rfl, rfl, Or.inl hat⟩
    · cases hfield

/-- The claims of such an event are an object. -/
theorem NestsClaims.exists_claims (h : NestsClaims event) :
    ∃ fields : Object, claims event = .ok (.obj fields) := by
  obtain ⟨context, -, hcontext, hc⟩ := h.step [] "requestContext" (Or.inl rfl) (by decide)
  obtain ⟨authorizer, hauthorizer, -, ha⟩ := h.step ["requestContext"] "authorizer" hc (by decide)
  obtain ⟨direct, hdirect, -⟩ := h.step ["requestContext", "authorizer"] "claims" ha (by decide)
  obtain ⟨token, -, htoken, ht⟩ := h.step ["requestContext", "authorizer"] "jwt" ha (by decide)
  obtain ⟨inner, hinner, -⟩ :=
    h.step ["requestContext", "authorizer", "jwt"] "claims" ht (by decide)
  simp only [claims, Bind.bind, Except.bind, hcontext, hauthorizer, htoken, hinner, Value.fields]
  split
  · rename_i htruthy
    rw [Value.orEmpty, Value.orElse, if_pos htruthy] at hdirect
    exact ⟨direct, congrArg Except.ok hdirect⟩
  · exact ⟨inner, rfl⟩

/-- What is read of such an event is a subject. -/
theorem NestsClaims.exists_subject (h : NestsClaims event) : ∃ sub, subject event = .ok sub := by
  obtain ⟨fields, hclaims⟩ := h.exists_claims
  exact ⟨_, by rw [subject, hclaims]; rfl⟩

/-- Only a caller is authenticated. -/
theorem exists_refusal {sub : Value} (h : ∀ caller, Identity.IsCaller caller → sub ≠ .str caller) :
    ∃ e : ServiceError, Identity.authenticate sub = .error (.service e) ∧
      e.code = .str ErrorCode.authentication.text := by
  unfold Identity.authenticate
  cases sub with
  | str t =>
    dsimp only
    split
    · exact ⟨_, rfl, rfl⟩
    · rename_i hblank
      split
      · exact ⟨_, rfl, rfl⟩
      · rename_i hstrip
        exact absurd rfl (h t ⟨by simpa using hblank, (not_not.1 hstrip).symm⟩)
  | _ => exact ⟨_, rfl, rfl⟩

theorem anonymousCode_eq_authentication_iff : anonymousCode event = .authentication ↔
    ∃ body : Object, gatewayBody event = .ok (.obj body) := by
  unfold anonymousCode
  split
  · rename_i body heq
    exact ⟨fun _ => ⟨body, heq⟩, fun _ => rfl⟩
  · rename_i heq
    rw [heq]
    simp
  · rename_i hobj _
    simpa using hobj

/-- Among objects, it does not matter what the body is of an event that is refused. -/
theorem ofEvent_of_refused {event' body body' : Object} {e : Failure}
    (he : isGatewayEvent (.obj event) = true)
    (hcontext : Object.field? "requestContext" event' = Object.field? "requestContext" event)
    (hb : gatewayBody event = .ok (.obj body)) (hb' : gatewayBody event' = .ok (.obj body'))
    (h : ofEvent (.obj event) = .error e) : ofEvent (.obj event') = .error e := by
  have he' : isGatewayEvent (.obj event') = true := by
    rw [isGatewayEvent, Object.has, hcontext]
    exact he
  rw [ofEvent_gateway he hb] at h
  rw [ofEvent_gateway he' hb', subject_congr hcontext]
  cases hsub : subject event with
  | error e' => rw [hsub] at h; exact h
  | ok sub =>
    rw [hsub] at h
    simp only [Except.bind] at h ⊢
    cases hcaller : Identity.authenticate sub with
    | error e' => rw [hcaller] at h; exact h
    | ok caller => rw [hcaller] at h; cases h

/-- A body that cannot be read is refused as its text is. -/
theorem exists_unreadable {e : Failure} (h : gatewayBody event = .error e) :
    ∃ refusal, e = unreadable refusal := by
  unfold gatewayBody at h
  split at h
  · cases h
  · rename_i t _ _
    cases hparse : Json.parse t with
    | ok v => rw [hparse] at h; cases h
    | error refusal => rw [hparse] at h; exact ⟨refusal, (Except.error.inj h).symm⟩
  · cases h

/-- Such an event is refused for its body, unless that is an object, and otherwise for its
    caller. -/
theorem ofEvent_anonymous (he : isGatewayEvent (.obj event) = true) (hn : NestsClaims event)
    (ha : IsAnonymous event) : ∃ e, ofEvent (.obj event) = .error e ∧
      ∀ function now, Response.code (Handler.told function now e) =
        .str (anonymousCode event).text := by
  obtain ⟨sub, hsub⟩ := hn.exists_subject
  obtain ⟨fields, hclaims⟩ := hn.exists_claims
  have hparts : parts (.obj event) = (gatewayBody event).bind fun body => .ok (body, sub) := by
    rw [subject, hclaims] at hsub
    simp only [parts, he, if_true, hclaims]
    cases gatewayBody event with
    | error e => rfl
    | ok body =>
      simp only [Bind.bind, Except.bind] at hsub ⊢
      rw [hsub]
      rfl
  rw [ofEvent, hparts, anonymousCode]
  cases hbody : gatewayBody event with
  | error e =>
    obtain ⟨refusal, rfl⟩ := exists_unreadable hbody
    refine ⟨_, rfl, fun function now => ?_⟩
    cases refusal with
    | malformed => exact Handler.code_told_service _ _ _
    | _ => rfl
  | ok body =>
    cases body with
    | obj body =>
      have hno : ∀ caller, Identity.IsCaller caller → sub ≠ .str caller :=
        fun caller hc h => ha caller hc (h ▸ hsub)
      obtain ⟨e, he, hcode⟩ := exists_refusal hno
      refine ⟨.service e, ?_, fun function now => ?_⟩
      · simp only [Bind.bind, Except.bind, bodyFields, he]
      · rw [Handler.code_told_service, hcode]
    | _ => exact ⟨_, rfl, fun function now => Handler.code_told_service _ _ _⟩

end Request

/-! ## Answers -/

namespace Function
variable {f : Function} {w : World}

/-- A function answers an event that is no request with what is told of the failure. -/
theorem invoke_refused (f : Function) {event : Value} {e : Failure}
    (h : Request.ofEvent event = .error e) (hw : w.IsTimed) (context : Value) :
    ((f.invoke event context).run w).1 =
      Handler.deliver event (Handler.told handlerName w.clock e) := by
  have hplain : e.IsPlain := by
    have hplainly := Request.ofEvent_plainly event
    rwa [h] at hplainly
  have hanswer : f.handler.answer event = Handler.respond handlerName e := by
    unfold Handler.answer
    rw [Request.accept, h]
    rfl
  have hanswered (w₁ : World) (h1 : w₁.clock = w.clock) : (f.handler.answer event).Ensures
      (World.within World.IsTimed) (fun x _ => ∃ response, x = .ok response ∧
        Response.IsWritable response ∧ response = Handler.told handlerName w.clock e) w₁ := by
    rw [hanswer, ← h1]
    refine (ensures_within _ w₁).mono fun x w₂ hx => ?_
    exact ⟨_, (congrArg Prod.fst hx).trans (Handler.respond_run _ _ _),
      Handler.isWritable_told _ _ hplain, rfl⟩
  have htimed : Timed (World.within World.IsTimed) fun w w' => w'.clock = w.clock :=
    World.timed_within (fun _ => id) (fun _ => rfl) (fun h h' => h'.trans h)
      fun w q _ => (w.reply_rest q).1
  obtain ⟨response, w', -, rfl, -, hx⟩ := ensures_run_within (fun _ q hw => hw.reply q) hw
    (invoke_timed htimed context hanswered)
  exact hx

/-- **Who is not known is told so just where the body is an object.**  Every gateway event without a
    valid subject is answered with a failure, and with the status of its code.  The caller is to
    blame for it where the body is an object, and then the answer is the same for all objects; a
    body that is no object is to blame itself. -/
theorem anonymous_refused (f : Function) {event : Object}
    (he : Request.isGatewayEvent (.obj event) = true) (hn : Request.NestsClaims event)
    (ha : Request.IsAnonymous event) (hw : w.IsTimed) (context : Value) :
    let answer := ((f.invoke (.obj event) context).run w).1
    let code := Request.anonymousCode event
    (∃ response wrapped, answer = .ok wrapped ∧ Response.Wraps response wrapped ∧
      Response.succeeded response = false ∧ Response.code response = .str code.text) ∧
    (code = .authentication ↔ ∃ body : Object, Request.gatewayBody event = .ok (.obj body)) ∧
    ∀ (event' body body' : Object) (context' : Value),
      Object.field? "requestContext" event' = Object.field? "requestContext" event →
      Request.gatewayBody event = .ok (.obj body) →
      Request.gatewayBody event' = .ok (.obj body') →
      ((f.invoke (.obj event') context').run w).1 = answer := by
  intro answer code
  obtain ⟨e, hrefused, hcode⟩ := Request.ofEvent_anonymous he hn ha
  have hplain : e.IsPlain := by
    have hplainly := Request.ofEvent_plainly (.obj event)
    rwa [hrefused] at hplainly
  have hanswer := invoke_refused f hrefused hw context
  have hwritable := Handler.isWritable_told handlerName w.clock hplain
  obtain ⟨wrapped, hdeliver⟩ := Handler.exists_deliver (.obj event) hwritable
  have hdelivered := Response.Delivered.of_deliver hwritable hdeliver
  have hwraps := hdelivered.wrapped (Request.isFromGateway_iff.2 he)
  refine ⟨⟨_, wrapped, hanswer.trans hdeliver, hwraps, Handler.succeeded_told _ _ _, hcode _ _⟩,
    Request.anonymousCode_eq_authentication_iff, ?_⟩
  intro event' body body' context' hcontext hb hb'
  have hrefused' := Request.ofEvent_of_refused he hcontext hb hb' hrefused
  have hsame : Handler.deliver (.obj event') = Handler.deliver (.obj event) := by
    funext response
    rw [Handler.deliver, Handler.deliver, Request.isGatewayEvent, Request.isGatewayEvent,
      Object.has, Object.has, hcontext]
  exact (invoke_refused f hrefused' hw context').trans (by rw [hsame]; exact hanswer.symm)

/-- A gateway event with a body and no claims at all. -/
def nameless (body : Text) : Object := [("body", .str body), ("requestContext", .obj [])]

theorem nestsClaims_nameless (body : Text) : Request.NestsClaims (nameless body) := by
  intro path hpath v hv
  simp only [Request.claimPaths, List.mem_cons, List.not_mem_nil, or_false] at hpath
  rcases hpath with rfl | rfl | rfl | rfl | rfl
  · exact ⟨[], (Option.some.inj hv).symm⟩
  all_goals cases hv

theorem isAnonymous_nameless (body : Text) : Request.IsAnonymous (nameless body) := by
  intro caller _ h
  cases h

/-- Who names nobody is told so, for one object as for another. -/
theorem nameless_refused :
    let event := nameless "\x7b\x7d"
    let event' := nameless "\x7b\"identity\": \" bob\"\x7d"
    Request.isGatewayEvent (.obj event) = true ∧ Request.NestsClaims event ∧
    Request.IsAnonymous event ∧ blankWorld.IsTimed ∧
    Request.anonymousCode event = .authentication ∧
    ∃ response wrapped, ((identityGet.invoke (.obj event) .null).run blankWorld).1 = .ok wrapped ∧
      wrapped.at? ["statusCode"] = some (.int 401) ∧ Response.Wraps response wrapped ∧
      ((identityGet.invoke (.obj event') .null).run blankWorld).1 = .ok wrapped := by
  intro event event'
  have hw : blankWorld.IsTimed := List.forall_mem_nil _
  obtain ⟨⟨response, wrapped, hanswer, hwraps, hfailed, hcode⟩, hiff, hsame⟩ := anonymous_refused
    identityGet rfl (nestsClaims_nameless "\x7b\x7d") (isAnonymous_nameless _) hw .null
  have hauthentication := hiff.2 ⟨[], rfl⟩
  rw [hauthentication] at hcode
  obtain ⟨number, text, hnumber, htext, hwrapped⟩ := hwraps
  obtain rfl : number = 401 := hnumber.unique (.failed hfailed hcode (by decide))
  refine ⟨rfl, nestsClaims_nameless _, isAnonymous_nameless _, hw, hauthentication, response,
    wrapped, hanswer, ?_, ⟨_, text, hnumber, htext, hwrapped⟩,
    (hsame event' _ _ .null rfl rfl rfl).trans hanswer⟩
  rw [hwrapped]
  rfl

/-- Text that is no JSON is found out although nobody is named. -/
theorem nameless_judged :
    let event := nameless "\x7b"
    Request.isGatewayEvent (.obj event) = true ∧ Request.NestsClaims event ∧
    Request.IsAnonymous event ∧
    ∃ response wrapped, ((identityGet.invoke (.obj event) .null).run blankWorld).1 = .ok wrapped ∧
      wrapped.at? ["statusCode"] = some (.int 400) ∧ Response.Wraps response wrapped ∧
      Response.code response = .str "VALIDATION_ERROR" := by
  intro event
  let response := Handler.told handlerName blankWorld.clock
    (.atField "Invalid JSON in request body" (.str "body"))
  have hcode : Response.code response = .str "VALIDATION_ERROR" := rfl
  exact ⟨rfl, nestsClaims_nameless _, isAnonymous_nameless _, response, _, rfl, rfl,
    ⟨400, _, .failed rfl hcode (by decide), rfl, rfl⟩, hcode⟩

end Function

end Rendezvous
