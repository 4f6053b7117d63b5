/-
  Every response can be written.

  A response is written as JSON text, and its status is that of its code.

  * `Response.IsWritable`: a response has a JSON text and a status; `Handler.respond_plains`: the
    response to a plain failure has;
  * `Function.answer_plains`: wherever the replies are plain, so has the response of every function
    to every event.
-/
import Rendezvous.Proofs.PlainServices

namespace Rendezvous

open Act

/-! ## Responses -/

namespace Handler

theorem codeOf_eq_ok_iff {response code : Value} : codeOf response = .ok code ↔
    ∃ fields error : Object, response = .obj fields ∧
      fields.field? "error" = some (.obj error) ∧ error.field? "code" = some code := by
  cases response with
  | obj fields =>
    simp only [codeOf, Value.fieldAt, Value.fields, Bind.bind, Except.bind]
    cases he : Object.field? "error" fields with
    | none => simp [he]
    | some error =>
      cases error with
      | obj error => cases hc : Object.field? "code" error <;> simp [he, hc]
      | _ => simp [he]
  | _ => simp [codeOf, Value.fieldAt, Value.fields, Bind.bind, Except.bind]

/-- The code that is logged of a response is its code. -/
theorem code_of_codeOf {response code : Value} (h : codeOf response = .ok code) :
    Response.code response = code := by
  obtain ⟨fields, error, rfl, herror, hcode⟩ := codeOf_eq_ok_iff.1 h
  simp only [Response.code, herror, Object.fieldOrNull, hcode, Option.getD_some]

end Handler

namespace Response

/-- A response holds no bytes, and if it is to a request that failed, its code is one of ours. -/
structure IsWritable (response : Value) : Prop where
  plain : Json.isPlain response = true
  form : succeeded response = true ∨
    succeeded response = false ∧ ∃ c : ErrorCode, Handler.codeOf response = .ok (.str c.text)

/-- A response that can be written has a status. -/
theorem IsWritable.exists_status {response : Value} (h : IsWritable response) :
    ∃ status, Response.status response = .ok status := by
  obtain ⟨-, hs | ⟨hs, c, hc⟩⟩ := h
  · exact ⟨.ok, status_eq_ok_iff.2 hs⟩
  · have hread := Handler.code_of_codeOf hc
    rcases status_cases response with ⟨h, -⟩ | ⟨-, h | ⟨h, -⟩⟩
    · rw [hs] at h; cases h
    · exact ⟨c.status, by rw [h, hread, statusOfCode_text]⟩
    · rw [hread] at h; cases h

theorem isPlain_origin (now : Instant) {function : Value} (h : Json.isPlain function = true) :
    Json.isPlain (.obj (origin now function)) = true := by
  have htime : Json.isPlain (.obj [("timestamp", .str now.isoText)]) = true := rfl
  unfold origin
  dsimp only
  split
  · exact Json.isPlain_put htime h
  · exact htime

theorem isWritable_success (now : Instant) {data function : Value} {metadata : Object}
    (hd : Json.isPlain data = true) (hm : Json.isPlain (.obj metadata) = true)
    (hf : Json.isPlain function = true) : IsWritable (success now data metadata function) := by
  refine ⟨?_, Or.inl rfl⟩
  rw [success, carriedOut, Json.isPlain_obj]
  simpa [hd] using ⟨rfl, Json.isPlain_merge (isPlain_origin now hf) hm⟩

theorem isPlain_failed (now : Instant) {code message details function : Value}
    (hc : Json.isPlain code = true) (hm : Json.isPlain message = true)
    (hd : Json.isPlain details = true) (hf : Json.isPlain function = true) :
    Json.isPlain (failed now code message details function) = true := by
  have herror : Json.isPlain (.obj [("code", code), ("message", message)]) = true := by
    simp [Json.isPlain_obj, hc, hm]
  have hall : Json.isPlain (.obj (if details.isTruthy then
      Object.put "details" details [("code", code), ("message", message)] else
        [("code", code), ("message", message)])) = true := by
    split
    · exact Json.isPlain_put herror hd
    · exact herror
  rw [failed, Json.isPlain_obj]
  simpa using ⟨rfl, hall, isPlain_origin now hf⟩

theorem codeOf_failed (now : Instant) (code message details function : Value) :
    Handler.codeOf (failed now code message details function) = .ok code := by
  unfold failed
  dsimp only
  cases details.isTruthy <;> rfl

end Response

namespace Handler

theorem isPlain_markRetryable (retryable : Bool) {response : Value}
    (h : Json.isPlain response = true) :
    Json.isPlain (markRetryable retryable response) = true := by
  unfold markRetryable
  split
  · split
    · rename_i fields _ _ error herror
      exact Json.isPlain_put h (Json.isPlain_put (Json.isPlain_field? h herror) rfl)
    · exact h
  · exact h

theorem codeOf_markRetryable (retryable : Bool) {response code : Value}
    (h : codeOf response = .ok code) : codeOf (markRetryable retryable response) = .ok code := by
  obtain ⟨fields, error, rfl, herror, hcode⟩ := codeOf_eq_ok_iff.1 h
  cases retryable with
  | false => exact h
  | true =>
    have hne : Text.ofString "code" ≠ Text.ofString "retryable" := by decide
    simp only [markRetryable, herror]
    refine codeOf_eq_ok_iff.2 ⟨_, _, rfl, Object.field?_put_self .., ?_⟩
    rw [Object.field?_put_of_ne hne, hcode]

/-- The response to a plain failure is given, and it can be written. -/
theorem respond_returns (function : Text) {e : Failure} (h : e.IsPlain) :
    (respond function e).Returns Response.IsWritable := by
  have hfailed (now : Instant) (c : ErrorCode) (message : Text) :
      Response.IsWritable
        (Response.failed now (.str c.text) (.str message) .null (.str function)) :=
    ⟨Response.isPlain_failed now rfl rfl rfl rfl, Or.inr ⟨rfl, c, Response.codeOf_failed ..⟩⟩
  unfold respond
  split
  · rename_i e
    obtain ⟨⟨c, hc⟩, ⟨message, hm⟩, hd⟩ := h
    simp only [bind_eq, pure_eq]
    refine Closes.bind (R := fun _ => True) ?_ fun _ _ => closes_now.bind fun now _ => ?_
    · cases e with
      | validation message field value hints => exact (closes_note _ _ _).bind fun _ _ => trivial
      | _ => trivial
    · refine ⟨isPlain_markRetryable _ (Response.isPlain_failed now ?_ ?_ hd rfl), Or.inr ⟨?_, c, ?_⟩⟩
      · rw [hc]; rfl
      · rw [hm]; rfl
      · exact (read_markRetryable _ _).1
      · exact codeOf_markRetryable _ (by rw [Response.codeOf_failed, hc])
  · exact (closes_note _ _ _).bind fun _ _ => closes_now.bind fun now _ => hfailed now _ _
  · exact (closes_note _ _ _).bind fun _ _ => closes_now.bind fun now _ => hfailed now _ _

/-- The end of a call is logged. -/
theorem logEnd_returns (function : Text) (start : Binary64) {response : Value}
    (h : Response.IsWritable response) :
    (logEnd function (.float start) response).Returns fun _ => True := by
  obtain ⟨-, hform⟩ := h
  unfold logEnd
  simp only [bind_eq, liftM_eq, pure_eq]
  refine closes_stopwatch.bind ?_
  rintro _ ⟨stop, rfl⟩
  -- a duration between floating readings is a floating one, which can always be logged
  have helapsed : elapsed (.float start) (.float stop) =
      .ok (.floating ((stop.sub start).scale 1000)) := rfl
  rw [helapsed]
  simp only [ofExcept_ok, done_bind, checkDuration]
  cases response with
  | obj fields =>
    have hfield : (Value.obj fields).fieldOrNull "success" =
        .ok (Object.fieldOrNull "success" fields) := rfl
    rw [hfield]
    rcases hform with hs | ⟨hs, c, hc⟩
    · have hs : (Object.fieldOrNull "success" fields).isTruthy = true := hs
      simp only [ofExcept_ok, done_bind, hs, if_true]
      exact closes_note _ _ _
    · have hs : (Object.fieldOrNull "success" fields).isTruthy = false := hs
      simp only [ofExcept_ok, done_bind, hs, Bool.false_eq_true, if_false, hc]
      exact closes_note _ _ _
  | _ => rcases hform with hs | ⟨-, c, hc⟩ <;> contradiction

end Handler

/-! ## Requests -/

namespace Request

theorem claims_mishaps (event : Object) : Mishaps (claims event) := by
  unfold claims
  refine (Value.fields_mishaps _).bind fun context => ?_
  refine (Value.fields_mishaps _).bind fun authorizer => ?_
  dsimp only
  split
  · exact .ok _
  · exact (Value.fields_mishaps _).bind fun token => .ok _

theorem isPlain_unreadable (refusal : Json.Refusal) : (unreadable refusal).IsPlain := by
  cases refusal with
  | malformed => exact Failure.isPlain_atField _ rfl
  | _ => trivial

theorem gatewayBody_plainly (event : Object) : FailsPlainly (gatewayBody event) := by
  unfold gatewayBody
  split
  · trivial
  · rename_i t _ _
    cases Json.parse t with
    | ok v => trivial
    | error refusal => exact isPlain_unreadable refusal
  · trivial

theorem parts_plainly (event : Value) : FailsPlainly (parts event) := by
  unfold parts
  split
  · split
    · refine (gatewayBody_plainly _).bind fun body _ => ?_
      refine (Plainly.of_mishaps (claims_mishaps _)).bind fun claims _ => ?_
      exact (Plainly.of_mishaps ((Value.fields_mishaps claims).map _)).bind fun _ _ => trivial
    · trivial
  · trivial

theorem authenticate_plainly (subject : Value) :
    FailsPlainly (Identity.authenticate subject) := by
  have hplain (message : Text) :
      (Failure.service (.authentication (.str message))).IsPlain :=
    ⟨⟨.authentication, rfl⟩, ⟨_, rfl⟩, rfl⟩
  unfold Identity.authenticate
  split
  · split
    · exact hplain _
    · split
      · exact hplain _
      · trivial
  · exact hplain _

theorem ofEvent_plainly (event : Value) : FailsPlainly (ofEvent event) := by
  refine (parts_plainly event).bind fun parts _ => ?_
  refine Plainly.bind (R := fun _ => True) ?_ fun body _ => ?_
  · unfold bodyFields
    split
    · trivial
    · exact Failure.isPlain_atField _ rfl
  · exact (authenticate_plainly _).bind fun caller _ => trivial

theorem accept_plainly (required : List Text) (event : Value) :
    FailsPlainly (accept (require required) event) := by
  refine (ofEvent_plainly event).bind fun request _ => ?_
  unfold require
  split
  · trivial
  · refine ⟨⟨.validation, rfl⟩, ⟨_, rfl⟩, Json.isPlain_present (Json.isPlain_obj.2 ?_)⟩
    simp [Json.isPlain, Json.itemsPlain]

end Request

/-! ## Functions -/

theorem Signal.check_plainly {s : Signal} (h : Json.isPlain (.obj s.toEvent) = true) :
    Plainly (fun s => Json.isPlain (.obj s.toEvent) = true) s.check := by
  unfold check
  split
  · trivial
  · split
    · split
      · exact h
      · trivial
    · trivial
    · exact h
    · trivial

theorem Signal.isPlain_toEvent {s : Signal} (hs : Json.isPlain s.sender = true)
    (hr : Json.isPlain s.recipient = true) : Json.isPlain (.obj s.toEvent) = true := by
  rw [Json.isPlain_obj]
  intro entry hentry
  have hpart : entry.2 ∈ s.parts := (List.of_mem_zip (a := entry.1) (b := entry.2) hentry).2
  have hparts : ∀ v ∈ s.parts, Json.isPlain v = true := by
    unfold parts
    split <;> simp [Json.isPlain, hs, hr]
  exact hparts _ hpart

namespace Function

theorem success_plains (function : Text) (operation : Operation) {data metadata : Object}
    (hd : Json.isPlain (.obj data) = true) (hm : Json.isPlain (.obj metadata) = true) :
    (success function operation data metadata).Plains Response.IsWritable :=
  closes_now.bind fun now _ => Response.isWritable_success now (Json.isPlain_put hd rfl) hm rfl

theorem validate_plainly {label : Value} (h : Json.isPlain label = true) (v : Value) :
    FailsPlainly (Identity.validate label v) := by
  unfold Identity.validate Identity.refuse
  split
  · split
    · exact Failure.isPlain_atField _ h
    · split
      · exact Failure.isPlain_atField _ h
      · split
        · exact Failure.isPlain_atField _ h
        · trivial
  · exact Failure.isPlain_atField _ h

theorem recipientOf_plainly (request : Request) : FailsPlainly (recipientOf request) :=
  (Plainly.of_mishaps (Value.fieldAt_mishaps _ _)).bind fun given _ => validate_plainly rfl given

theorem asRegistry_plainly (service : Service) : FailsPlainly service.asRegistry := by
  cases service <;> trivial

theorem asContactBook_plainly (service : Service) :
    FailsPlainly service.asContactBook := by
  cases service <;> trivial

theorem asChannel_plainly (service : Service) : FailsPlainly service.asChannel := by
  cases service <;> trivial

/-- A signal is relayed and told. -/
theorem sent_plains (function : Text) (operation : Operation) (channel : Channel)
    {x : Except Failure Signal} (h : Plainly (fun s => Json.isPlain (.obj s.toEvent) = true) x) :
    (((ofExcept x).bind fun s => channel.relay s).bind fun s =>
      success function operation (sent s) []).Plains Response.IsWritable := by
  have hrelayed : ((ofExcept x).bind fun s => channel.relay s).Plains
      fun s => Json.isPlain (.obj s.toEvent) = true := by
    refine (plains_ofExcept h).bind fun s hs => (channel.relay_plains s).mono ?_
    rintro _ rfl
    exact hs
  refine hrelayed.bind fun s hs => success_plains _ _ ?_ rfl
  rw [Json.isPlain_obj]
  simpa [sent] using ⟨rfl, hs⟩

theorem chatOffer_plains (request : Request) :
    (chatOffer.run request).Plains Response.IsWritable := by
  simp only [chatOffer, bind_eq, liftM_eq]
  refine (plains_ofExcept (Field.bytesIn_plainly _ _)).bind fun welcome _ => ?_
  refine (plains_ofExcept (Field.bytesIn_plainly _ _)).bind fun payload _ => ?_
  refine (plains_ofExcept (recipientOf_plainly request)).bind fun recipient _ => ?_
  refine (plains_service _).bind fun service _ => ?_
  refine (plains_ofExcept (asChannel_plainly service)).bind fun channel _ => ?_
  exact sent_plains _ _ channel (Signal.check_plainly (Signal.isPlain_toEvent rfl rfl))

theorem chatAnswer_plains (request : Request) :
    (chatAnswer.run request).Plains Response.IsWritable := by
  simp only [chatAnswer, bind_eq, liftM_eq]
  refine (plains_ofExcept (Field.bytesIn_plainly _ _)).bind fun payload _ => ?_
  refine (plains_ofExcept (recipientOf_plainly request)).bind fun recipient _ => ?_
  refine (plains_service _).bind fun service _ => ?_
  refine (plains_ofExcept (asChannel_plainly service)).bind fun channel _ => ?_
  exact sent_plains _ _ channel (Signal.check_plainly (Signal.isPlain_toEvent rfl rfl))

theorem isPlain_contact (owner : Text) (address : Bytes) (record : ContactRecord) :
    Json.isPlain (.obj (record.toObject (.str owner) address)) = true := rfl

theorem contactUpsert_plains (request : Request) :
    (contactUpsert.run request).Plains Response.IsWritable := by
  simp only [contactUpsert, bind_eq, liftM_eq]
  refine (plains_ofExcept (Field.bytesIn_plainly _ _)).bind fun name _ => ?_
  refine (plains_ofExcept (Field.bytesIn_plainly _ _)).bind fun address _ => ?_
  refine (plains_service _).bind fun service _ => ?_
  refine (plains_ofExcept (asContactBook_plainly service)).bind fun book _ => ?_
  exact (book.upsert_plains _ address name).bind fun record _ => success_plains _ _ rfl rfl

theorem contactRemove_plains (request : Request) :
    (contactRemove.run request).Plains Response.IsWritable := by
  simp only [contactRemove, bind_eq, liftM_eq]
  refine (plains_ofExcept (Field.bytesIn_plainly _ _)).bind fun address _ => ?_
  refine (plains_service _).bind fun service _ => ?_
  refine (plains_ofExcept (asContactBook_plainly service)).bind fun book _ => ?_
  exact (book.remove_plains _ address).bind fun _ _ => success_plains _ _ rfl rfl

theorem contactGet_plains (request : Request) :
    (contactGet.run request).Plains Response.IsWritable := by
  simp only [contactGet, bind_eq, liftM_eq]
  refine (plains_service _).bind fun service _ => ?_
  split
  · refine (plains_ofExcept (Field.bytesIn_plainly _ _)).bind fun address _ => ?_
    refine (plains_ofExcept (asContactBook_plainly service)).bind fun book _ => ?_
    refine (book.get_plains _ address).bind fun record _ => ?_
    refine (book.contains_plains _ address).bind fun present _ => success_plains _ _ ?_ rfl
    simpa [Json.isPlain_obj] using Json.isPlain_put (isPlain_contact _ address record) rfl
  · refine (plains_ofExcept (asContactBook_plainly service)).bind fun book _ => ?_
    refine (book.list_plains _).bind fun contacts _ => success_plains _ _ ?_ rfl
    have hshown : ∀ v ∈ contacts.map fun contact =>
        Value.obj (contact.2.toObject (.str request.caller) contact.1), Json.isPlain v = true := by
      intro v hv
      obtain ⟨⟨address, record⟩, -, rfl⟩ := List.mem_map.1 hv
      exact isPlain_contact _ address record
    have hcount : Json.isPlain (.int contacts.length) = true := rfl
    simpa [Json.isPlain_obj, Json.isPlain_arr, hcount] using hshown

theorem wantedIdentity_plains (service : Service) (request : Request) :
    (wantedIdentity service request).Plains fun wanted => Json.isPlain wanted.1 = true := by
  unfold wantedIdentity
  simp only [bind_eq, liftM_eq, pure_eq]
  split
  · refine (plains_ofExcept (Field.bytesIn_plainly _ _)).bind fun nickname _ => ?_
    refine (plains_ofExcept (asRegistry_plainly service)).bind fun registry _ => ?_
    exact (registry.resolveNickname_plains nickname).bind fun owner h => h
  · split
    · exact (plains_ofExcept (validate_plainly rfl _)).bind fun _ _ => rfl
    · rfl

theorem recordOf_plains (service : Service) (identity : Value) :
    (recordOf service identity).Plains fun _ => True := by
  unfold recordOf
  split
  · exact (plains_ofExcept (asRegistry_plainly service)).bind fun registry _ =>
      registry.findRecord_plains identity
  · trivial

theorem isPlain_record {identity : Value} (h : Json.isPlain identity = true) (registered : Bool)
    (record : AddressRecord) :
    Json.isPlain (.obj (record.toObject identity (.bool registered))) = true := by
  simpa [AddressRecord.toObject, Json.isPlain_obj] using ⟨h, rfl, rfl, rfl, rfl⟩

theorem identityGet_plains (request : Request) :
    (identityGet.run request).Plains Response.IsWritable := by
  simp only [identityGet, bind_eq]
  refine (plains_service _).bind fun service _ => ?_
  refine (wantedIdentity_plains service request).bind fun wanted hwanted => ?_
  refine (recordOf_plains service wanted.1).bind fun found _ => success_plains _ _ ?_ rfl
  simpa [Json.isPlain_obj] using isPlain_record hwanted found.isSome _

theorem identityRegister_plains (request : Request) :
    (identityRegister.run request).Plains Response.IsWritable := by
  simp only [identityRegister, bind_eq, liftM_eq, fail_bind]
  split
  · exact Failure.isPlain_atField _ rfl
  · refine (plains_ofExcept (Field.bytesIn_plainly _ _)).bind fun nickname _ => ?_
    refine (plains_ofExcept (Field.bytesIn_plainly _ _)).bind fun address _ => ?_
    refine (plains_service _).bind fun service _ => ?_
    refine (plains_ofExcept (asRegistry_plainly service)).bind fun registry _ => ?_
    exact (registry.register_plains rfl nickname address).bind fun record _ =>
      success_plains _ _ rfl rfl

/-- Wherever the replies are plain, every function ends plainly. -/
theorem run_plains {f : Function} (hf : f ∈ all) (request : Request) :
    (f.run request).Plains Response.IsWritable := by
  simp only [all, List.mem_cons, List.not_mem_nil, or_false] at hf
  rcases hf with rfl | rfl | rfl | rfl | rfl | rfl | rfl
  exacts [chatAnswer_plains request, chatOffer_plains request, contactGet_plains request,
    contactRemove_plains request, contactUpsert_plains request, identityGet_plains request,
    identityRegister_plains request]

/-- Wherever the replies are plain, every function responds to every event, and its response can be
    written. -/
theorem answer_returns {f : Function} (hf : f ∈ all) (event : Value) :
    (f.handler.answer event).Returns Response.IsWritable := by
  unfold Handler.answer
  simp only [bind_eq, liftM_eq, pure_eq, handler]
  have hanswered : ((ofExcept (Request.accept (Request.require f.required) event)).bind
      f.run).Plains Response.IsWritable :=
    (plains_ofExcept (Request.accept_plainly _ event)).bind fun request _ => run_plains hf request
  refine hanswered.attempt_bind fun x hx => ?_
  split
  · exact hx
  · exact Handler.respond_returns _ hx

end Function

end Rendezvous
