/-
  Whoever can authenticate can be addressed, if the name is not too long.

  Callers and the identities that requests name are read by two different checks.  Both refuse
  blanks, but only the second one bounds the length.  A caller within the bound is found under its
  own name once it has registered, and offers and answers reach it.

  * `Identity.authenticate_eq_ok_iff`, `Identity.validate_eq_ok_iff`: what each check accepts;
    `Request.validate_caller_iff`: where they differ;
  * `Function.invoke_tells`: a registration is told to whoever asks for its identity;
  * `SignalKind.invoke_reaches`: a signal for an identity is sent;
  * `Function.registered_addressed`: all that follows for a caller that has registered.
-/
import Rendezvous.Proofs.Chat
import Rendezvous.Proofs.Claiming

namespace Rendezvous

open Act Scene Transport

/-! ## The two checks -/

namespace Identity

theorem authenticate_eq_ok_iff {subject : Value} {caller : Text} :
    authenticate subject = .ok caller ↔ subject = .str caller ∧ IsCaller caller := by
  constructor
  · intro h
    unfold authenticate at h
    cases subject with
    | str t =>
      dsimp only at h
      split_ifs at h with hblank hstrip
      obtain rfl := Except.ok.inj h
      exact ⟨rfl, by simpa using hblank, (not_not.1 hstrip).symm⟩
    | _ => cases h
  · rintro ⟨rfl, h⟩
    exact h.authenticate

theorem validate_eq_ok_iff {label : Value} {t : Text} :
    validate label (.str t) = .ok t ↔ IsCaller t ∧ t.length ≤ maxLength := by
  constructor
  · intro h
    simp only [validate] at h
    split_ifs at h with hblank hstrip hlong
    exact ⟨⟨by simpa using hblank, (not_not.1 hstrip).symm⟩, by omega⟩
  · rintro ⟨⟨hblank, hstrip⟩, hlength⟩
    simp [validate, hblank, hstrip, hlength]

end Identity

namespace Request

variable {event : Value} {request : Request}

theorem isCaller_of_ofEvent (h : ofEvent event = .ok request) :
    Identity.IsCaller request.caller := by
  have hparts := parts_of_ofEvent h
  obtain ⟨_, hpair, h⟩ := Except.bind_eq_ok.1 h
  obtain ⟨_, -, h⟩ := Except.bind_eq_ok.1 h
  obtain ⟨caller, hcaller, -⟩ := Except.bind_eq_ok.1 h
  rw [hparts] at hpair
  obtain rfl := Except.ok.inj hpair
  obtain ⟨hsame, hc⟩ := Identity.authenticate_eq_ok_iff.1 hcaller
  rwa [Value.str.inj hsame]

/-- A caller can be named in the requests of others just if its name is not too long. -/
theorem validate_caller_iff (h : ofEvent event = .ok request) (label : Value) :
    Identity.validate label (.str request.caller) = .ok request.caller ↔
      request.caller.length ≤ Identity.maxLength := by
  rw [Identity.validate_eq_ok_iff]
  exact and_iff_right (isCaller_of_ofEvent h)

/-- A request asks for an identity: it names it, and no nickname, which would go before it. -/
structure SeeksIdentity (body : Object) (identity : Text) : Prop where
  named : Object.field? "identity" body = some (.str identity)
  alone : Field.hasNickname body = false

end Request

/-! ## Looking up -/

namespace Function

section
variable {σ : Type} {c : Course σ} {s : σ} {a : Application} {now : Instant}

/-- What is registered is told to whoever asks for its identity. -/
theorem identityGet_tells (hc : c.Hosts) (hp : (c.tables s).Paired)
    (ha : (c.tables s).Holds a now)
    (hvalid : Identity.validate (.str "identity") (.str a.caller) = .ok a.caller)
    {request : Request} (hseeks : Request.SeeksIdentity request.body a.caller) :
    (identityGet.run request).Ensures c.answer (fun x _ => ∃ response, x = .ok response ∧
      Response.IsWritable response ∧ Response.Tells response a.told) s := by
  have hgiven : Object.fieldOrNull "identity" request.body = .str a.caller := by
    rw [Object.fieldOrNull, hseeks.named, Option.getD_some]
  have htruthy : (Value.str a.caller).isTruthy = true := by
    cases hcaller : a.caller with
    | nil => rw [hcaller] at hvalid; cases hvalid
    | cons x t => rfl
  simp only [identityGet, wantedIdentity, recordOf, bind_eq, liftM_eq, pure_eq, hseeks.alone,
    Bool.false_eq_true, if_false, hgiven, htruthy, if_true, hvalid, ofExcept_ok, done_bind]
  intro reply s₁ hr
  obtain ⟨h1, r, rfl⟩ := hc.registry hr
  simp only [ofExcept_ok, done_bind, Service.asRegistry]
  refine (r.findRecord_shows (c.paired h1 hp) a.caller).bind ?_ ?_
  · rintro found s₂ ⟨m, h2, -, hfound⟩
    obtain rfl := Except.ok.inj hfound
    rw [((c.kept (c.trans h1 h2)).holds ha).record?]
    refine (success_tells rfl rfl).mono ?_
    rintro x s₃ ⟨response, rfl, -, hwritable, htells⟩
    exact ⟨response, rfl, hwritable, htells⟩
  · rintro e s₂ ⟨m, -, -, he⟩
    cases he

end

/-- The answer delivers what is told. -/
theorem invoke_tells {w : World} (hw : w.IsHosting) (hp : w.tables.Paired) {a : Application}
    {now : Instant} (ha : w.tables.Holds a now)
    (hvalid : Identity.validate (.str "identity") (.str a.caller) = .ok a.caller)
    {event : Value} {request : Request}
    (haccept : Request.accept (Request.require identityGet.required) event = .ok request)
    (hseeks : Request.SeeksIdentity request.body a.caller) (context : Value) :
    Delivers event ((identityGet.invoke event context).run w).1 a.told := by
  have htells : ∀ w₁, Course.hosting.passes w w₁ → (identityGet.run request).Ensures
      Course.hosting.answer (fun x _ => ∃ response, x = .ok response ∧
        Response.IsWritable response ∧ Response.Tells response a.told) w₁ := by
    intro w₁ h1
    have hsame : Course.hosting.tables w₁ = w.tables := Course.hosting_solitary h1
    exact identityGet_tells Course.hosting_hosts (hsame ▸ hp) (hsame ▸ ha) hvalid hseeks
  obtain ⟨answer, response, -, hanswer, hdelivered, htells, -⟩ := Course.ensures_run_hosting hw
    (invoke_accepted Course.hosting_hosts haccept context htells)
  exact ⟨answer, response, hanswer, hdelivered, htells⟩

end Function

/-! ## Chats -/

namespace SignalKind

/-- All parts of a signal can be read from a request but the recipient. -/
def IsFilled (kind : SignalKind) (body : Object) : Prop :=
  (∃ payload, Field.bytesIn body kind.payloadName = .ok payload) ∧
    (kind = .offer → ∃ welcome, Field.bytesIn body "welcome_msg" = .ok welcome)

variable {kind : SignalKind} {request : Request} {recipient : Text}

theorem IsFilled.exists_asks (h : kind.IsFilled request.body)
    (hnamed : Object.field? "to" request.body = some (.str recipient))
    (hvalid : Identity.validate (.str "to") (.str recipient) = .ok recipient) :
    ∃ signal, signal.kind = kind ∧ Request.Asks request recipient signal := by
  obtain ⟨⟨payload, hpayload⟩, hwelcome⟩ := h
  cases kind with
  | offer =>
    obtain ⟨welcome, hwelcome⟩ := hwelcome rfl
    exact ⟨⟨.offer, payload, .str request.caller, .str recipient, some welcome⟩, rfl, hpayload,
      ⟨welcome, hwelcome, rfl⟩, hnamed, hvalid, rfl, rfl⟩
  | answer =>
    exact ⟨⟨.answer, payload, .str request.caller, .str recipient, none⟩, rfl, hpayload, rfl,
      hnamed, hvalid, rfl, rfl⟩

/-- A signal that is complete and names its recipient as it has to be named is sent, if the bus
    accepts it. -/
theorem invoke_reaches {w : World} {bus source event : Value} (hw : w.SendsOver bus source)
    (ht : w.IsTimed) (hreply : accepts w.nextReply = true)
    (haccept : Request.accept (Request.require kind.function.required) event = .ok request)
    (hfilled : kind.IsFilled request.body)
    (hnamed : Object.field? "to" request.body = some (.str recipient))
    (hvalid : Identity.validate (.str "to") (.str recipient) = .ok recipient) (context : Value) :
    Handler.Succeeds event ((kind.function.invoke event context).run w).1 := by
  obtain ⟨signal, rfl, hasks⟩ := hfilled.exists_asks hnamed hvalid
  obtain ⟨-, -, hsucceeds⟩ := invoke_asked hw ht haccept hasks context
  exact hsucceeds.2 hreply

end SignalKind

/-! ## Callers that have registered -/

namespace Function

/-- A registration can be addressed in tables and in all that follow them: it is told to whoever
    asks for its identity, and offers and answers for it are sent wherever signals can be sent. -/
structure Addressed (t : Tables) (a : Application) : Prop where
  found : ∀ w' : World, Follows t w'.tables → w'.IsHosting →
    ∀ {event : Value} {request : Request} (context : Value),
      Request.accept (Request.require identityGet.required) event = .ok request →
        Request.SeeksIdentity request.body a.caller →
          Delivers event ((identityGet.invoke event context).run w').1 a.told
  reached : ∀ (kind : SignalKind) (w' : World) {bus source event : Value} {request : Request}
    (context : Value), w'.SendsOver bus source → w'.IsTimed → accepts w'.nextReply = true →
      Request.accept (Request.require kind.function.required) event = .ok request →
        kind.IsFilled request.body → Object.field? "to" request.body = some (.str a.caller) →
          Handler.Succeeds event ((kind.function.invoke event context).run w').1

variable {event : Value} {request : Request}

/-- A registration that succeeds has put what the request says. -/
theorem enrolls_of_succeeds (h : Request.ofEvent event = .ok request) {w : World}
    (hw : w.IsTroubled .remote) (ht : Reaches w.tables) {context : Value}
    (hsucceeds : Handler.Succeeds event ((identityRegister.invoke event context).run w).1) :
    enrolls request w.tables ((identityRegister.invoke event context).run w).2.tables := by
  have hf : (identityRegister, enrolls) ∈ effects := by simp [effects]
  obtain ⟨response, hdeliver, hout⟩ := invoke_run hf hw ht.sound event context
  cases hout with
  | carriedOut read _ haccept he =>
    rw [Request.ofEvent_of_accept haccept] at h
    obtain rfl := Except.ok.inj h
    exact he
  | failed hfailed _ _ => exact (Handler.not_succeeds hdeliver hfailed hsucceeds).elim

/-- **Whoever can authenticate can be addressed, if the name is not too long.**  A caller that is
    authenticated passes the check of identities in requests just if its name has at most 256 code
    points.  If it does, then once it has registered, whatever else is called, it is found under its
    own name with what it has registered, and offers and answers to it are accepted. -/
theorem callers_addressed (h : Request.ofEvent event = .ok request) :
    (∀ label, Identity.validate label (.str request.caller) = .ok request.caller ↔
      request.caller.length ≤ 256) ∧
    (request.caller.length ≤ 256 → ∀ (w : World) (context : Value),
      w.IsTroubled .remote → Reaches w.tables →
        Handler.Succeeds event ((identityRegister.invoke event context).run w).1 →
          ∃ a : Application, a.caller = request.caller ∧
            Field.bytesIn request.body "nickname" = .ok a.nickname ∧
            Field.bytesIn request.body "address" = .ok a.address ∧
            Addressed ((identityRegister.invoke event context).run w).2.tables a) := by
  have hvalidate := Request.validate_caller_iff h
  refine ⟨hvalidate, fun hlength w context hw ht hsucceeds => ?_⟩
  have hvalid (label : Value) := (hvalidate label).2 hlength
  have hf : identityRegister ∈ all := by simp [all]
  have henrolls := enrolls_of_succeeds h hw ht hsucceeds
  have hsound := enrolls_sound henrolls ht.sound
  have hempty := (invoke_enlarges hf hw ht.sound event context).unregistered_empty
    ht.unregistered_empty
  obtain ⟨a, now, hcaller, hnickname, haddress, hd, -, hput⟩ := henrolls
  rw [← hcaller] at hvalid
  have ha : ((identityRegister.invoke event context).run w).2.tables.Holds a now :=
    hput ▸ Tables.holds_enroll hd
  refine ⟨a, hcaller, hnickname, haddress, ?_, ?_⟩
  · intro w' hfollows hw' event' request' context' haccept hseeks
    obtain ⟨hsound', -, hkept⟩ := hfollows.grows hsound hempty
    exact invoke_tells hw' hsound'.paired (hkept.holds ha) (hvalid _) haccept hseeks context'
  · intro kind w' bus source event' request' context' hsends htimed hreply haccept hfilled hnamed
    exact kind.invoke_reaches hsends htimed hreply haccept hfilled hnamed (hvalid _) context'

/-- Somebody else asks for a caller by its identity. -/
def seekAnn : Value := .obj [("caller", .str "bob"), ("identity", .str "ann")]

/-- Somebody else answers a caller. -/
def answerAnn : Value := .obj [("caller", .str "bob"), ("to", .str "ann"), ("answer", .str "0x07")]

/-- A caller that has registered is found by its identity, and answered. -/
theorem ann_addressed :
    let ended := (identityRegister.invoke application .null).run blankWorld
    (∃ request, Request.ofEvent application = .ok request ∧ request.caller = "ann") ∧
    blankWorld.IsTroubled .remote ∧ Reaches blankWorld.tables ∧
    Handler.Succeeds application ended.1 ∧
    (∃ a : Application, a.caller = "ann" ∧
      Delivers seekAnn ((identityGet.invoke seekAnn .null).run
        { blankWorld with tables := ended.2.tables }).1
          (AddressRecord.shown (.str "ann") true a.nickname a.address)) ∧
    Handler.Succeeds answerAnn ((chatAnswer.invoke answerAnn .null).run blankWorld).1 := by
  obtain ⟨request, h, hcaller⟩ : ∃ request, Request.ofEvent application = .ok request ∧
      request.caller = "ann" := ⟨_, rfl, rfl⟩
  have hw : blankWorld.IsTroubled .remote :=
    ⟨rfl, by decide, List.forall_mem_nil _, fun _ hreply => by cases hreply⟩
  have hhosting : blankWorld.IsHosting :=
    ⟨⟨rfl, rfl, by decide⟩, List.forall_mem_nil _, ⟨_, _, rfl⟩⟩
  have hsucceeds : Handler.Succeeds application
      ((identityRegister.invoke application .null).run blankWorld).1 :=
    ⟨_, _, rfl, (Response.delivered_iff rfl).2 rfl, rfl⟩
  have hshort : request.caller.length ≤ 256 := by rw [hcaller]; decide
  obtain ⟨a, ha, -, -, hfound, hreached⟩ :=
    (callers_addressed h).2 hshort blankWorld .null hw .start hsucceeds
  rw [hcaller] at ha
  have hseek : Request.accept (Request.require identityGet.required) seekAnn =
      .ok ⟨"bob", [("caller", .str "bob"), ("identity", .str "ann")]⟩ := rfl
  have hseeks : Request.SeeksIdentity [("caller", .str "bob"), ("identity", .str "ann")]
      a.caller := ⟨ha ▸ rfl, rfl⟩
  have hanswer : Request.accept (Request.require chatAnswer.required) answerAnn =
      .ok ⟨"bob", [("caller", .str "bob"), ("to", .str "ann"), ("answer", .str "0x07")]⟩ := rfl
  have hsends : blankWorld.SendsOver (.str "signal-registry-test") (.str Config.defaultSource) :=
    ⟨0, _, rfl, .made rfl rfl rfl rfl⟩
  have hfilled : SignalKind.answer.IsFilled
      [("caller", .str "bob"), ("to", .str "ann"), ("answer", .str "0x07")] :=
    ⟨⟨_, rfl⟩, fun hkind => by cases hkind⟩
  have hanswered := hreached .answer blankWorld .null hsends (List.forall_mem_nil _) rfl hanswer
    hfilled (ha ▸ rfl)
  -- how the registration ended is not to be computed
  generalize (identityRegister.invoke application .null).run blankWorld = ended at *
  have hdelivers := hfound { blankWorld with tables := ended.2.tables } .refl
    (hhosting.withTables _) .null hseek hseeks
  rw [Application.told, ha] at hdelivers
  exact ⟨⟨request, h, hcaller⟩, hw, .start, hsucceeds, ⟨a, ha, hdelivers⟩, hanswered⟩

end Function

namespace Identity

/-- A name of one code point more than identities in requests may have. -/
def longName : Text := List.replicate 257 'b'

theorem isCaller_longName : IsCaller longName := by
  have hnonblank : ∀ c ∈ longName, c.isBlank = false := by
    intro c hc
    rw [List.eq_of_mem_replicate hc]
    rfl
  exact ⟨rfl, Text.strip_of_nonblank hnonblank⟩

/-- Its bearer is authenticated, and cannot be addressed. -/
theorem longName_unaddressed :
    Request.ofEvent (.obj [("caller", .str longName)]) =
        .ok ⟨longName, [("caller", .str longName)]⟩ ∧
      ∀ label, validate label (.str longName) ≠ .ok longName := by
  have hbrings : Request.Brings longName [("caller", .str longName)]
      (.obj [("caller", .str longName)]) := .direct rfl rfl
  refine ⟨hbrings.ofEvent isCaller_longName, fun label hvalid => ?_⟩
  have hlength : longName.length ≤ maxLength := (validate_eq_ok_iff.1 hvalid).2
  rw [longName, List.length_replicate] at hlength
  exact absurd hlength (by decide)

end Identity

end Rendezvous
