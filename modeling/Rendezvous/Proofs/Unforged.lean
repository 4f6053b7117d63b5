/-
  No request can forge or split an entry of the log.

  Every function logs its calls, and the services that it calls log what they do.  Whatever an event
  holds, and whatever the store and the bus reply, each entry is one line of printable ASCII that is
  read as an object of a headline, which no request has a part in, and of the fields of the entry.

  * `Request.IsLoggable`: a request can be logged; `Request.isLoggable_of_ofEvent`: so can what is
    read of every event that JSON text can hold;
  * `Request.IsSpliced`: only texts of such a kind may have halves of surrogate pairs side by side;
  * `Function.run_notes`, `Function.invoke_notes`: the functions log nothing but fit entries;
  * `Function.invoke_unforged`: so their lines can be told from each other, and are read back.
-/
import Rendezvous.Proofs.Answers
import Rendezvous.Proofs.Chat
import Rendezvous.Proofs.Logging

namespace Rendezvous

open Act Log

/-! ## Requests -/

theorem FailsLoggably.of_mishaps {α : Type} {x : Except Failure α} (h : Mishaps x) :
    FailsLoggably x :=
  fun e he => (h e he).isLoggable

namespace Request

theorem unreadable_isLoggable (refusal : Json.Refusal) : (unreadable refusal).IsLoggable := by
  cases refusal with
  | malformed => exact Failure.isLoggable_atField _ (Value.isJson_fixed _)
  | _ => trivial

theorem gatewayBody_loggably (event : Object) : FailsLoggably (gatewayBody event) := by
  unfold gatewayBody
  split
  · exact .ok _
  · rename_i t _ _
    cases Json.parse t with
    | ok v => exact .ok _
    | error refusal => exact .error (unreadable_isLoggable refusal)
  · exact .ok _

theorem parts_loggably (event : Value) : FailsLoggably (parts event) := by
  unfold parts
  split
  · split
    · refine (gatewayBody_loggably _).bind fun body => ?_
      refine (FailsLoggably.of_mishaps (claims_mishaps _)).bind fun claims => ?_
      refine (FailsLoggably.of_mishaps ((Value.fields_mishaps claims).map _)).bind fun subject => ?_
      exact .ok _
    · exact .ok _
  · exact .ok _

theorem authenticate_loggably (subject : Value) : FailsLoggably (Identity.authenticate subject) := by
  have hrefused (message : Value) : (Failure.service (.authentication message)).IsLoggable :=
    Failure.isLoggable_service (c := .authentication) rfl nofun
  unfold Identity.authenticate
  split
  · split_ifs
    exacts [.error (hrefused _), .error (hrefused _), .ok _]
  · exact .error (hrefused _)

theorem accept_loggably (required : List Text) (event : Value) :
    FailsLoggably (accept (require required) event) := by
  refine FailsBy.bind ((parts_loggably event).bind fun parts => ?_) fun request => ?_
  · refine FailsBy.bind ?_ fun body => (authenticate_loggably _).bind fun caller => .ok _
    unfold bodyFields
    split
    · exact .ok _
    · exact .error (Failure.isLoggable_atField _ (Value.isJson_fixed _))
  · unfold require
    split
    · exact .ok _
    · exact .error (Failure.isLoggable_validation _ _ _ .null)

/-- What can be logged of a request: its caller, and the texts of its fields. -/
structure IsLoggable (W : Text → Prop) (request : Request) : Prop where
  caller : request.caller.IsWhole
  texts : ∀ name t, request.body.field? name = some (.str t) → W t

end Request

theorem Value.IsJson.texts {depth : Nat} {v : Value} (h : v.IsJson depth) :
    v.Texts Text.IsWhole := by
  induction h with
  | null => exact .null
  | bool b => exact .bool b
  | int _ => exact .int _
  | float _ => exact .float _
  | str h => exact .str h
  | arr _ ih => exact .arr ih
  | obj _ _ _ ih => exact .obj ih

namespace Request

theorem caller_whole {event : Value} {request : Request} (h : event.Texts Text.IsWhole)
    (hr : ofEvent event = .ok request) : request.caller.IsWhole := by
  have hparts := parts_of_ofEvent hr
  cases event with
  | obj event =>
    have hfields : Object.Texts Text.IsWhole event := by
      cases h with
      | obj h => exact h
    cases he : isGatewayEvent (.obj event) with
    | true =>
      cases subject_texts hfields (gateway_of_ofEvent he hr).2 with
      | str hcaller => exact hcaller
    | false =>
      simp only [parts, he, Bool.false_eq_true, if_false, Except.ok.injEq, Prod.mk.injEq,
        Value.obj.injEq] at hparts
      have hcaller := hfields.fieldOrNull "caller"
      rw [hparts.2] at hcaller
      cases hcaller with
      | str hcaller => exact hcaller
  | _ => cases hparts

/-- A text out of a body that is text itself, and that has halves of surrogate pairs.  Such a body
    can have one half as it is and the next one escaped, and both stand side by side in the text. -/
structure IsSpliced (event : Value) (t : Text) : Prop where
  gateway : isGatewayEvent event = true
  body : ∃ (fields : Object) (text : Text), event = .obj fields ∧
    fields.field? "body" = some (.str text) ∧ ¬text.IsScalar
  read : ∃ request name, ofEvent event = .ok request ∧ request.body.field? name = some (.str t)

/-- The request of an event that JSON text can hold can be logged, and its texts are whole if they
    are not spliced. -/
theorem isLoggable_of_ofEvent {event : Value} {depth : Nat} (h : event.IsJson depth)
    {request : Request} (hr : ofEvent event = .ok request) :
    request.IsLoggable fun t => t.IsWhole ∨ IsSpliced event t := by
  refine ⟨caller_whole h.texts hr, fun name t ht => ?_⟩
  have hwhole (hbody : (Value.obj request.body).Texts Text.IsWhole) : t.IsWhole := by
    cases hbody with
    | obj hbody =>
      cases Object.Texts.field? hbody ht with
      | str ht => exact ht
  -- only a body that is text is read anew, so halves that were apart can meet only there
  cases he : isGatewayEvent event with
  | true =>
    by_cases hlegible : IsLegible event
    · exact Or.inl (hwhole (ofEvent_whole hlegible hr).2)
    · have hbody : ∃ (fields : Object) (text : Text), event = .obj fields ∧
          fields.field? "body" = some (.str text) ∧ ¬text.IsScalar := by
        by_contra hnone
        refine hlegible ⟨h.texts, fun fields text hevent hfield => ?_⟩
        by_contra hscalar
        exact hnone ⟨fields, text, hevent, hfield, hscalar⟩
      exact Or.inr ⟨he, hbody, request, name, hr, ht⟩
  | false =>
    have hparts := parts_of_ofEvent hr
    cases event with
    | obj event =>
      simp only [parts, he, Bool.false_eq_true, if_false, Except.ok.injEq, Prod.mk.injEq] at hparts
      exact Or.inl (hwhole (hparts.1 ▸ h.texts))
    | _ => cases hparts

end Request

/-! ## Functions -/

/-- A response tells of success, or has one of our codes. -/
def Response.IsCoded (response : Value) : Prop := succeeded response = true ∨
  ∃ c : ErrorCode, Handler.codeOf response = .ok (.str c.text)

namespace Scope
variable {g : Scope} {service : Service} (h : service.site = g.site)
include h

theorem asRegistry_loggably : Loggably (· = g.registry) service.asRegistry := by
  cases service with
  | registry r => obtain ⟨site⟩ := r; exact congrArg Registry.mk h
  | _ => trivial

theorem asContactBook_loggably : Loggably (· = g.book) service.asContactBook := by
  cases service with
  | contactBook b => obtain ⟨site⟩ := b; exact congrArg ContactBook.mk h
  | _ => trivial

theorem asChannel_loggably :
    Loggably (fun channel => ∃ slot, channel = g.channel slot) service.asChannel := by
  cases service with
  | channel c => obtain ⟨site, slot⟩ := c; exact ⟨slot, congrArg (Channel.mk · slot) h⟩
  | _ => trivial

end Scope

theorem Identity.validate_loggably {label : Value} (h : label.IsJson fieldDepth) (v : Value) :
    FailsLoggably (validate label v) := by
  have hrefuse (reason : Text) : (refuse label reason).IsLoggable :=
    Failure.isLoggable_atField _ h
  unfold validate
  split
  · split_ifs
    exacts [.error (hrefuse _), .error (hrefuse _), .error (hrefuse _), .ok _]
  · exact .error (hrefuse _)

/-- An identity is used as it is given. -/
theorem Identity.eq_of_validate {label v : Value} {t : Text} (h : validate label v = .ok t) :
    v = .str t := by
  cases v with
  | str given => exact congrArg Value.str (SignalKind.eq_of_validate h).symm
  | _ => cases h

theorem Object.field?_of_fieldOrNull {o : Object} {name t : Text}
    (h : o.fieldOrNull name = .str t) : o.field? name = some (.str t) := by
  rw [fieldOrNull] at h
  cases hv : o.field? name with
  | none => rw [hv] at h; cases h
  | some v => rw [hv] at h; exact congrArg some h

/-- A signal that is checked is from whom and to whom it was. -/
theorem Signal.check_loggably {g : Scope} {s : Signal} (hs : g.Tells s.sender)
    (hr : g.Tells s.recipient) :
    Loggably (fun s => g.Tells s.sender ∧ g.Tells s.recipient) s.check := by
  unfold check
  split
  · trivial
  · split
    · split
      · exact ⟨hs, hr⟩
      · trivial
    · trivial
    · exact ⟨hs, hr⟩
    · trivial

namespace Function
variable {g : Scope} (hg : g.IsWhole) {request : Request} (hr : request.IsLoggable g.told)

theorem success_notes (function : Text) (operation : Operation) (data metadata : Object) :
    (success function operation data metadata).Notes g Response.IsCoded :=
  notes_now.bind fun _ _ => Or.inl rfl

include hg in
/-- A signal is relayed and told. -/
theorem sent_notes (function : Text) (operation : Operation) (slot : Nat)
    {x : Except Failure Signal} (h : Loggably (fun s => g.Tells s.sender ∧ g.Tells s.recipient) x) :
    (((ofExcept x).bind fun s => (g.channel slot).relay s).bind fun s =>
      success function operation (sent s) []).Notes g Response.IsCoded :=
  ((notes_ofExcept h).bind fun _ hs => Channel.relay_notes slot hg hs.1 hs.2).bind
    fun _ _ => success_notes _ _ _ _

include hr

theorem tells_caller : g.Tells (.str request.caller) := Or.inl (.str hr.caller)

theorem recipientOf_loggably :
    Loggably (fun recipient => g.Tells (.str recipient)) (recipientOf request) := by
  cases hx : recipientOf request with
  | ok recipient =>
    exact Or.inr ⟨recipient, rfl, hr.texts _ _ (SignalKind.recipientOf_eq_ok_iff.1 hx).1⟩
  | error e =>
    have hfails : FailsLoggably (recipientOf request) :=
      (FailsLoggably.of_mishaps (Value.fieldAt_mishaps _ _)).bind fun given =>
        Identity.validate_loggably (Value.isJson_fixed _) given
    exact hfails e hx

include hg

theorem chatOffer_notes : (chatOffer.run request).Notes g Response.IsCoded := by
  simp only [chatOffer, bind_eq, liftM_eq]
  refine (notes_reading (Field.bytesIn_loggably request.body "welcome_msg")).bind fun welcome _ => ?_
  refine (notes_reading (Field.bytesIn_loggably request.body "offer")).bind fun payload _ => ?_
  refine (notes_ofExcept (recipientOf_loggably hr)).bind fun recipient hrecipient => ?_
  refine (notes_service _).bind fun service hservice => ?_
  refine (notes_ofExcept (Scope.asChannel_loggably hservice)).bind ?_
  rintro _ ⟨slot, rfl⟩
  exact sent_notes hg _ _ slot (Signal.check_loggably (tells_caller hr) hrecipient)

theorem chatAnswer_notes : (chatAnswer.run request).Notes g Response.IsCoded := by
  simp only [chatAnswer, bind_eq, liftM_eq]
  refine (notes_reading (Field.bytesIn_loggably request.body "answer")).bind fun payload _ => ?_
  refine (notes_ofExcept (recipientOf_loggably hr)).bind fun recipient hrecipient => ?_
  refine (notes_service _).bind fun service hservice => ?_
  refine (notes_ofExcept (Scope.asChannel_loggably hservice)).bind ?_
  rintro _ ⟨slot, rfl⟩
  exact sent_notes hg _ _ slot (Signal.check_loggably (tells_caller hr) hrecipient)

theorem contactUpsert_notes (hcounts : g.counts = false) :
    (contactUpsert.run request).Notes g Response.IsCoded := by
  simp only [contactUpsert, bind_eq, liftM_eq]
  refine (notes_reading (Field.bytesIn_loggably request.body "name")).bind fun name _ => ?_
  refine (notes_reading (Field.bytesIn_loggably request.body "addr")).bind fun address _ => ?_
  refine (notes_service _).bind fun service hservice => ?_
  refine (notes_ofExcept (Scope.asContactBook_loggably hservice)).bind ?_
  rintro _ rfl
  exact (ContactBook.upsert_notes hg (tells_caller hr) hcounts address name).bind
    fun _ _ => success_notes _ _ _ _

theorem contactRemove_notes : (contactRemove.run request).Notes g Response.IsCoded := by
  simp only [contactRemove, bind_eq, liftM_eq]
  refine (notes_reading (Field.bytesIn_loggably request.body "addr")).bind fun address _ => ?_
  refine (notes_service _).bind fun service hservice => ?_
  refine (notes_ofExcept (Scope.asContactBook_loggably hservice)).bind ?_
  rintro _ rfl
  exact (ContactBook.remove_notes hg (tells_caller hr) address).bind
    fun _ _ => success_notes _ _ _ _

theorem contactGet_notes (hcounts : g.counts = true) :
    (contactGet.run request).Notes g Response.IsCoded := by
  have hcaller := tells_caller hr
  simp only [contactGet, bind_eq, liftM_eq]
  refine (notes_service _).bind fun service hservice => ?_
  split
  · refine (notes_reading (Field.bytesIn_loggably request.body "addr")).bind fun address _ => ?_
    refine (notes_ofExcept (Scope.asContactBook_loggably hservice)).bind ?_
    rintro _ rfl
    exact (ContactBook.get_notes hg hcaller address).bind fun _ _ =>
      (ContactBook.contains_notes hg hcaller address).bind fun _ _ => success_notes _ _ _ _
  · refine (notes_ofExcept (Scope.asContactBook_loggably hservice)).bind ?_
    rintro _ rfl
    exact (ContactBook.list_notes hg hcaller hcounts).bind fun _ _ => success_notes _ _ _ _

theorem wantedIdentity_notes {service : Service} (hservice : service.site = g.site) :
    (wantedIdentity service request).Notes g fun wanted => g.Tells wanted.1 := by
  unfold wantedIdentity
  simp only [bind_eq, liftM_eq, pure_eq]
  split
  · refine (notes_reading (Field.bytesIn_loggably request.body "nickname")).bind fun nickname _ => ?_
    refine (notes_ofExcept (Scope.asRegistry_loggably hservice)).bind ?_
    rintro _ rfl
    exact (Registry.resolveNickname_notes hg nickname).bind fun owner howner => Or.inl howner
  · split
    · refine Notes.bind (R := fun t => g.Tells (.str t)) (notes_ofExcept ?_) fun t ht => ht
      cases hx : Identity.validate (.str "identity")
          (Object.fieldOrNull "identity" request.body) with
      | ok t =>
        have hgiven := Object.field?_of_fieldOrNull (Identity.eq_of_validate hx)
        exact Or.inr ⟨t, rfl, hr.texts _ t hgiven⟩
      | error e => exact Identity.validate_loggably (Value.isJson_fixed _) _ e hx
    · exact tells_caller hr

theorem identityGet_notes : (identityGet.run request).Notes g Response.IsCoded := by
  simp only [identityGet, bind_eq]
  refine (notes_service _).bind fun service hservice => ?_
  refine (wantedIdentity_notes hg hr hservice).bind fun wanted hwanted => ?_
  refine Notes.bind (R := fun _ => True) ?_ fun _ _ => success_notes _ _ _ _
  unfold recordOf
  split
  · simp only [bind_eq, liftM_eq]
    refine (notes_ofExcept (Scope.asRegistry_loggably hservice)).bind ?_
    rintro _ rfl
    exact Registry.findRecord_notes hg hwanted
  · trivial

theorem identityRegister_notes : (identityRegister.run request).Notes g Response.IsCoded := by
  simp only [identityRegister, bind_eq, liftM_eq, fail_bind]
  split
  · exact Failure.isLoggable_atField _ (Value.isJson_fixed _)
  · refine (notes_reading (Field.bytesIn_loggably request.body "nickname")).bind fun nickname _ => ?_
    refine (notes_reading (Field.bytesIn_loggably request.body "address")).bind fun address _ => ?_
    refine (notes_service _).bind fun service hservice => ?_
    refine (notes_ofExcept (Scope.asRegistry_loggably hservice)).bind ?_
    rintro _ rfl
    exact (Registry.register_notes hg (.str hr.caller) nickname address).bind
      fun _ _ => success_notes _ _ _ _

/-- Whether a function counts contacts: the one that lists them. -/
def countsContacts (f : Function) : Bool := f.name = contactGet.name

/-- The functions log nothing but fit entries. -/
theorem run_notes {f : Function} (hf : f ∈ all) (hcounts : g.counts = f.countsContacts) :
    (f.run request).Notes g Response.IsCoded := by
  simp only [all, List.mem_cons, List.not_mem_nil, or_false] at hf
  rcases hf with rfl | rfl | rfl | rfl | rfl | rfl | rfl
  exacts [chatAnswer_notes hg hr, chatOffer_notes hg hr, contactGet_notes hg hr hcounts,
    contactRemove_notes hg hr, contactUpsert_notes hg hr hcounts, identityGet_notes hg hr,
    identityRegister_notes hg hr]

end Function

/-! ## The dispatcher -/

theorem ErrorCode.isWhole_text (c : ErrorCode) : c.text.IsWhole := by
  cases c <;> exact Text.isWhole_ofString _

namespace Handler
variable {g : Scope}

theorem diagnoseRequest_notes {field : Value} (hfield : field.IsJson fieldDepth) (e : Failure) :
    (diagnoseRequest field e).Notes g fun _ => True := by
  have htold : ∀ entry ∈ e.requestContext field, ToldAt g.told entry := by
    rw [Failure.requestContext, List.forall_mem_cons, List.forall_mem_cons,
      List.forall_mem_singleton]
    refine ⟨toldAt_json ?_ _, toldAt_whole e.isWhole_name _, toldAt_wording (by decide) _⟩
    unfold Value.orElse
    split
    · exact hfield
    · exact Value.isJson_fixed _
  have hfits : g.Fits ((Note.plain .info (.str "Validation error")).entry (.str mainSource)
      (e.requestContext field)) :=
    isFit_entry rfl (mem_headlines_call (List.mem_of_getElem? (i := 3) rfl)) rfl htold
  exact (notes_note hfits).bind fun _ _ => trivial

theorem unexpected_notes (e : Failure) :
    (Act.note mainSource (.trouble (.str ("Unexpected error in " ++ Function.handlerName))
      (some (.ofFailure true e))) []).Notes g fun _ => True := by
  refine notes_note (isFit_entry rfl
    (mem_headlines_call (List.mem_of_getElem? (i := 4) rfl)) rfl ?_)
  exact Object.forall_mem_merge (List.forall_mem_nil _) (told_cause true e)

/-- The response to a failure that can be logged has one of our codes. -/
theorem respond_notes {e : Failure} (h : e.IsLoggable) :
    (respond Function.handlerName e).Notes g Response.IsCoded := by
  have hfailed (c : ErrorCode) (now : Instant) (message details : Value) : Response.IsCoded
      (Response.failed now (.str c.text) message details (.str Function.handlerName)) :=
    Or.inr ⟨c, Response.codeOf_failed ..⟩
  unfold respond
  split
  · rename_i e
    obtain ⟨⟨c, hc⟩, hfield⟩ := h
    simp only [bind_eq, pure_eq]
    refine Notes.bind (R := fun _ => True) ?_ fun _ _ => notes_now.bind fun now _ => ?_
    · cases e with
      | validation message field value hints =>
        exact (diagnoseRequest_notes (hfield _ _ _ _ rfl) _).bind fun _ _ => trivial
      | _ => trivial
    · exact Or.inr ⟨c, codeOf_markRetryable _ (by rw [Response.codeOf_failed, hc])⟩
  · exact (diagnoseRequest_notes .null _).bind fun _ _ => notes_now.bind fun now _ =>
      hfailed .validation now _ _
  · exact (unexpected_notes _).bind fun _ _ => notes_now.bind fun now _ => hfailed .internal now _ _

/-- A function responds to every event, and so has one of our codes if it fails. -/
theorem answer_notes (hg : g.IsWhole) {f : Function} (hf : f ∈ Function.all)
    (hcounts : g.counts = f.countsContacts) {event : Value}
    (hr : ∀ request, Request.ofEvent event = .ok request → request.IsLoggable g.told) :
    (f.handler.answer event).Notes g Response.IsCoded := by
  unfold answer
  simp only [bind_eq, liftM_eq, pure_eq, Function.handler]
  refine Notes.attempt_bind (R := Response.IsCoded) ?_ fun x hx => ?_
  · cases haccept : Request.accept (Request.require f.required) event with
    | ok request =>
      exact Function.run_notes hg (hr request (Request.ofEvent_of_accept haccept)) hf hcounts
    | error e => exact Request.accept_loggably f.required event e haccept
  · split
    · exact hx
    · exact respond_notes hx

/-- A duration that can be logged is read back. -/
theorem isJson_duration {duration : Number} (h : checkDuration duration = .ok ()) :
    (Value.ofNumber duration.roundHundredths).IsJson fieldDepth := by
  cases duration with
  | whole n =>
    rw [checkDuration] at h
    split_ifs at h with hn
    exact .int hn
  | floating x => exact .float (Binary64.isRepresentable_roundHundredths x)

theorem elapsed_loggably (start stop : Value) : FailsLoggably (elapsed start stop) := by
  have hnumber (v : Value) : FailsLoggably v.number := by
    cases v <;> first | exact .ok _ | exact .error trivial
  refine (hnumber start).bind fun x => (hnumber stop).bind fun y => ?_
  split
  · exact .ok _
  · exact .error trivial

theorem isJson_keys {event : Object} {depth : Nat} (h : (Value.obj event).IsJson depth) :
    (Value.arr ((Object.keys event).map .str)).IsJson fieldDepth := by
  cases h with
  | obj _ hnames _ =>
    have hkeys : (Value.arr ((Object.keys event).map .str)).IsJson 1 := by
      rw [Object.keys, List.map_map]
      exact .arr (List.forall_mem_map.2 fun field hfield => .str (hnames field hfield))
    exact hkeys.mono (by decide)

/-- What is shown of a field is a text or a number. -/
theorem isJson_shownField {depth : Nat} {v : Value} (h : v.IsJson depth) (name : Text) :
    (shownField name v).IsJson 0 := by
  unfold shownField
  split
  · exact Value.isJson_fixed _
  · split
    · rename_i hscalar
      cases h with
      | null => exact .null
      | bool b => exact .bool b
      | int h => exact .int h
      | float h => exact .float h
      | str h => exact .str h
      | _ => cases hscalar
    · cases v <;> exact Value.isJson_fixed _

theorem isJson_shownFields {event : Object} {depth : Nat} (h : (Value.obj event).IsJson depth) :
    (Value.obj (shownFields event)).IsJson fieldDepth := by
  cases h with
  | obj hdistinct hnames hvalues =>
    have hkeys : Object.keys (shownFields event) = Object.keys event := by
      simp [shownFields, Object.keys]
    have hshown : (Value.obj (shownFields event)).IsJson 1 :=
      .obj (hkeys ▸ hdistinct) (List.forall_mem_map.2 fun field hfield => hnames field hfield)
        (List.forall_mem_map.2 fun field hfield => isJson_shownField (hvalues field hfield) field.1)
    exact hshown.mono (by decide)

/-- The entry of the start of a call, with what may be shown of the event. -/
theorem fits_started {event request : Value} {depth : Nat} (he : event.IsJson depth)
    (hr : request.IsJson fieldDepth) :
    g.Fits ((Note.started (.str Function.handlerName) event request).entry (.str mainSource) []) := by
  have hheadline : ⟨mainSource, .info, "Lambda function lambda_handler started"⟩ ∈
      headlines g.site.tables g.bus := mem_headlines_call (List.mem_of_getElem? (i := 0) rfl)
  have hcall : ToldAt g.told ("function_name", .str Function.handlerName) ∧
      ToldAt g.told ("request_id", request) := ⟨toldAt_fixed _ _, toldAt_json hr _⟩
  cases event with
  | obj event =>
    refine isFit_entry rfl hheadline rfl ?_
    exact List.forall_mem_cons.2 ⟨hcall.1, List.forall_mem_cons.2 ⟨hcall.2,
      List.forall_mem_cons.2 ⟨toldAt_json (isJson_keys he) _,
        List.forall_mem_singleton.2 (toldAt_json (isJson_shownFields he) _)⟩⟩⟩
  | _ =>
    refine isFit_entry rfl hheadline rfl ?_
    exact List.forall_mem_cons.2 ⟨hcall.1, List.forall_mem_cons.2 ⟨hcall.2,
      List.forall_mem_singleton.2 (toldAt_fixed _ _)⟩⟩

/-- The entry of the end of a call. -/
theorem fits_ended (success : Bool) {duration : Number} (hd : checkDuration duration = .ok ())
    {remarks : Object}
    (hnames : areFieldNames ("function_name" :: "success" :: "duration_ms" ::
      Object.keys remarks) = true)
    (hremarks : ∀ field ∈ remarks, ToldAt g.told field) :
    g.Fits ((Note.ended (.str Function.handlerName) (.bool success) (some duration)).entry
      (.str mainSource) remarks) := by
  have hfields : (Note.ended (.str Function.handlerName) (.bool success) (some duration)).fields
      remarks = Object.merge [("function_name", .str Function.handlerName),
        ("success", .bool success),
        ("duration_ms", Value.ofNumber duration.roundHundredths)] remarks := rfl
  have hown : ∀ field ∈ ([("function_name", .str Function.handlerName),
      ("success", .bool success),
      ("duration_ms", Value.ofNumber duration.roundHundredths)] : Object),
      ToldAt g.told field := by
    rw [List.forall_mem_cons, List.forall_mem_cons, List.forall_mem_singleton]
    exact ⟨toldAt_fixed _ _, toldAt_bool _ _, toldAt_json (isJson_duration hd) _⟩
  cases success with
  | true =>
    exact fits_merge rfl (mem_headlines_call (List.mem_of_getElem? (i := 1) rfl)) hfields hnames
      hown hremarks
  | false =>
    exact fits_merge rfl (mem_headlines_call (List.mem_of_getElem? (i := 2) rfl)) hfields hnames
      hown hremarks

/-- What is logged of the end of a call. -/
theorem logEnd_notes (start : Value) {response : Value} (h : Response.IsCoded response) :
    (logEnd Function.handlerName start response).Notes g fun _ => True := by
  have hnote (duration : Number) (success : Bool) {remarks : Object}
      (hnames : areFieldNames ("function_name" :: "success" :: "duration_ms" ::
        Object.keys remarks) = true)
      (hremarks : ∀ field ∈ remarks, ToldAt g.told field) :
      ((ofExcept (checkDuration duration)).bind fun _ => Act.note mainSource
        (.ended (.str Function.handlerName) (.bool success) (some duration)) remarks).Notes g
          fun _ => True := by
    -- a duration that is too long to be written fails here, before the entry is logged
    cases hd : checkDuration duration with
    | ok u => exact notes_note (fits_ended success hd hnames hremarks)
    | error e =>
      cases duration with
      | whole n =>
        rw [checkDuration] at hd
        split_ifs at hd
        obtain rfl := Except.error.inj hd
        trivial
      | floating x => cases hd
  unfold logEnd
  simp only [bind_eq, liftM_eq, pure_eq]
  refine Notes.bind (R := fun _ => True) ⟨trivial, fun _ _ => trivial⟩ fun stop _ => ?_
  refine (notes_reading (elapsed_loggably start stop)).bind fun duration _ => ?_
  cases response with
  | obj fields =>
    have hfield : (Value.obj fields).fieldOrNull "success" =
        .ok (Object.fieldOrNull "success" fields) := rfl
    rw [hfield]
    simp only [ofExcept_ok, done_bind]
    cases hs : (Object.fieldOrNull "success" fields).isTruthy with
    | true => exact hnote duration true rfl (List.forall_mem_nil _)
    | false =>
      -- a response that does not tell of success has a code, and that code is one of ours
      rcases h with h | ⟨c, hc⟩
      · exact absurd (h.symm.trans hs) (by decide)
      · simp only [Bool.false_eq_true, if_false, hc, ofExcept_ok, done_bind]
        exact hnote duration false rfl
          (List.forall_mem_singleton.2 (toldAt_whole c.isWhole_text _))
  | _ => rcases h with hs | ⟨c, hc⟩ <;> contradiction

theorem deliver_mishaps (event response : Value) : Mishaps (deliver event response) := by
  have hstatus (v : Value) : Mishaps (Response.statusOfCode v) := by
    cases v with
    | str t => rw [Response.statusOfCode]; split <;> exact .ok _
    | arr items => exact .defect _ _
    | obj fields => exact .defect _ _
    | _ => exact .ok _
  unfold deliver
  split
  · refine Mishaps.bind ((Value.fields_mishaps response).bind fun fields => ?_) fun status => ?_
    · split
      · exact .ok _
      · exact ((Value.fields_mishaps _).map _).bind hstatus
    · unfold Response.gateway
      split
      · exact .ok _
      · exact .defect _ _
  · exact .ok _

end Handler

/-! ## Calls -/

namespace Function
variable {f : Function} (hf : f ∈ all) {event context : Value} {depth : Nat}
  (hevent : event.IsJson depth) (hcontext : (Handler.requestId context).IsJson fieldDepth)
include hf hevent hcontext

/-- A call logs nothing but fit entries. -/
theorem invoke_notes {g : Scope} (hg : g.IsWhole) (hcounts : g.counts = f.countsContacts)
    (htold : g.told = fun t => t.IsWhole ∨ Request.IsSpliced event t) :
    (f.invoke event context).Notes g fun _ => True := by
  have hrequest : ∀ request, Request.ofEvent event = .ok request → request.IsLoggable g.told :=
    fun request hr => htold ▸ Request.isLoggable_of_ofEvent hevent hr
  unfold invoke Handler.handle
  simp only [bind_eq, liftM_eq, handler, if_true]
  refine Notes.bind (R := fun _ => True) ⟨trivial, fun _ _ => trivial⟩ fun start _ => ?_
  refine (notes_note (Handler.fits_started hevent hcontext)).bind fun _ _ => ?_
  refine (Handler.answer_notes hg hf hcounts hrequest).bind fun response hresponse => ?_
  refine (Handler.logEnd_notes start hresponse).bind fun _ _ => ?_
  exact notes_reading (FailsLoggably.of_mishaps (Handler.deliver_mishaps _ _))

/-- What a call logs is not forged, and what its world holds can be logged still. -/
theorem logged_unforged {site : Site} {bus : Text} (henvironment : site.environment.IsWhole)
    (htables : site.tables.AreWhole) (hbus : bus.IsWhole) {w : World}
    (hw : w.IsLoggable site bus) (hcount : f.countsContacts = true → w.IsCounted) :
    (∀ e ∈ (f.invoke event context).logged w,
      e.IsUnforged site.tables bus w.clock site.environment (Request.IsSpliced event)) ∧
    ((f.invoke event context).run w).2.IsLoggable site bus := by
  let g : Scope :=
    ⟨site, bus, fun t => t.IsWhole ∨ Request.IsSpliced event t, f.countsContacts⟩
  have hg : g.IsWhole := ⟨henvironment, htables, hbus⟩
  have hnotes : (f.invoke event context).Notes g fun _ => True :=
    invoke_notes hf hevent hcontext hg rfl rfl
  obtain ⟨hafter, hlogged⟩ := hnotes.run ⟨hw, hcount⟩
  exact ⟨fun e he => (hlogged e he).isUnforged htables hbus henvironment w.clock,
    hafter.toIsLoggable⟩

/-- **No request can forge or split an entry of the log.**  Whatever an event holds, its call writes
    one line for each entry that it logs, save for debug entries while those are off; and the line is
    printable ASCII, which is read as one object.  What stands at its top is one of the headlines of
    the deployment, no field takes the place of any of it, and the fields are read as they were
    logged, but with the halves of surrogate pairs joined that stand side by side.  They do so in no
    text of an event; in a text of its body only if the body is itself text with such a half in it;
    and they may in what others say of a failure. -/
theorem invoke_unforged {site : Site} {bus : Text} (henvironment : site.environment.IsWhole)
    (htables : site.tables.AreWhole) (hbus : bus.IsWhole) {w : World}
    (hw : w.IsLoggable site bus) (hcount : f.countsContacts = true → w.IsCounted) :
    let call := f.invoke event context
    (call.run w).2.lines = w.lines ++
        ((call.logged w).filter fun e => e.level ≠ .debug || w.journal.debug).map
          (·.line w.clock (.str site.environment)) ∧
      (∀ e ∈ call.logged w,
        e.IsUnforged site.tables bus w.clock site.environment (Request.IsSpliced event)) ∧
      (call.run w).2.IsLoggable site bus := by
  intro call
  have hlines := call.run_lines w
  rw [hw.journal] at hlines
  exact ⟨hlines, logged_unforged hf hevent hcontext henvironment htables hbus hw hcount⟩

omit hf hevent hcontext in
/-- Of an empty world and of what comes of it, everything can be logged. -/
theorem isLoggable_blankWorld :
    blankWorld.IsLoggable blankWorld.container.site
      (Config.defaultBus blankWorld.container.site.environment) :=
  { journal := rfl
    foreign := ⟨List.forall_mem_nil _, fun _ h => by cases h⟩
    env := rfl
    container := ⟨rfl, List.forall_mem_nil _⟩
    bindings := List.forall_mem_nil _
    intruders := List.forall_mem_nil _
    replies := fun _ h => by cases h
    transports := List.forall_mem_nil _ }

omit hf hevent hcontext in
theorem isWhole_blankBus : Text.IsWhole (Config.defaultBus blankWorld.container.site.environment) :=
  ((Text.isScalar_ofString _).append (Text.isScalar_ofString _)).isWhole

/-- A request whose caller would end an entry and start another one. -/
def forgery : Object :=
  [("caller", .str "ann\"\x7d\r\n\x7b\"level\": \"DEBUG"), ("level", .str "DEBUG"),
   ("message\n", .str "\n")]

omit hf hevent hcontext in
/-- Each entry of that call has its line, and none of them is of the caller's making. -/
theorem forgery_unforged :
    let call := identityGet.invoke (.obj forgery) .null
    let site : Site := blankWorld.container.site
    let bus : Text := Config.defaultBus site.environment
    (call.logged blankWorld).map (·.level) = [.info, .debug, .info] ∧
      (call.run blankWorld).2.lines = blankWorld.lines ++
        ((call.logged blankWorld).filter fun e =>
          e.level ≠ .debug || blankWorld.journal.debug).map
            (·.line blankWorld.clock (.str site.environment)) ∧
      (∀ e ∈ call.logged blankWorld, e.IsUnforged site.tables bus blankWorld.clock
        site.environment (Request.IsSpliced (.obj forgery))) ∧
      (call.run blankWorld).2.IsLoggable site bus := by
  intro call site bus
  have hfixed := Text.isWhole_ofString
  have hnames : (Object.keys forgery).Nodup := by decide
  have hforgery : (Value.obj forgery).IsJson 1 := by
    refine .obj hnames ?_ ?_ <;> simp only [forgery, List.forall_mem_cons]
    · exact ⟨hfixed _, hfixed _, hfixed _, List.forall_mem_nil _⟩
    · exact ⟨Value.isJson_fixed _, Value.isJson_fixed _, Value.isJson_fixed _,
        List.forall_mem_nil _⟩
  refine ⟨?_, invoke_unforged (f := identityGet) (by simp [all]) hforgery (Value.isJson_fixed _)
    (hfixed _) ⟨hfixed _, hfixed _, hfixed _⟩ isWhole_blankBus isLoggable_blankWorld
    fun h => by cases h⟩
  rfl

omit hf hevent hcontext in
theorem isJson_halvesEvent : SignalKind.halvesEvent.IsJson 4 := by
  have hfixed := Text.isWhole_ofString
  have hsingle {name : String} {v : Value} {depth : Nat} (hv : v.IsJson depth) :
      (Value.obj [(Text.ofString name, v)]).IsJson (depth + 1) :=
    .obj (List.nodup_singleton _) (List.forall_mem_singleton.2 (hfixed name))
      (List.forall_mem_singleton.2 hv)
  refine .obj (by decide) ?_ ?_ <;> rw [List.forall_mem_cons, List.forall_mem_singleton]
  · exact ⟨hfixed "body", hfixed "requestContext"⟩
  · exact ⟨.str (by decide), hsingle (hsingle (hsingle (.str (hfixed "ann"))))⟩

omit hf hevent hcontext in
/-- The recipient is in the entry of the notification, which is no debug entry. -/
theorem halves_logged :
    ∃ e ∈ (chatAnswer.invoke SignalKind.halvesEvent .null).logged blankWorld,
      e.level ≠ .debug ∧ e.fields.field? "recipient" = some (.str SignalKind.halves) := by
  obtain ⟨e, he, htold⟩ := List.any_eq_true.1 (by decide +kernel :
    (((chatAnswer.invoke SignalKind.halvesEvent .null).logged blankWorld).any fun e =>
      e.level ≠ .debug &&
        (Object.fieldOrNull "recipient" e.fields).isText SignalKind.halves) = true)
  obtain ⟨hlevel, hrecipient⟩ := Bool.and_eq_true_iff.1 htold
  refine ⟨e, he, of_decide_eq_true hlevel, Object.field?_of_fieldOrNull ?_⟩
  cases hv : Object.fieldOrNull "recipient" e.fields with
  | str t =>
    rw [hv] at hrecipient
    exact congrArg Value.str (of_decide_eq_true hrecipient)
  | _ =>
    rw [hv] at hrecipient
    cases hrecipient

omit hf hevent hcontext in
/-- The recipient of a request is logged as it is given, but another one is read of the line: the
    body of the event has one half of a surrogate pair escaped and the other one as it is, and on the
    line both of them are escaped, which is how the pair is written. -/
theorem halves_logged_joined :
    let call := chatAnswer.invoke SignalKind.halvesEvent .null
    ∃ (request : Request) (e : Entry) (line : Text) (read : Object),
      Request.ofEvent SignalKind.halvesEvent = .ok request ∧
      Object.field? "to" request.body = some (.str SignalKind.halves) ∧
      e ∈ call.logged blankWorld ∧
      e.fields.field? "recipient" = some (.str SignalKind.halves) ∧
      line = e.line blankWorld.clock (.str "test") ∧ line ∈ (call.run blankWorld).2.lines ∧
      Json.parse line = .ok (.obj read) ∧
      read.field? "recipient" = some (.str [.ofNat 0x1f600]) ∧
      SignalKind.halves ≠ [.ofNat 0x1f600] := by
  intro call
  have hfixed := Text.isWhole_ofString
  have hrequest : (Handler.requestId .null).IsJson fieldDepth := .str (hfixed "unknown")
  obtain ⟨hunforged, -⟩ := logged_unforged (f := chatAnswer) (by simp [all]) isJson_halvesEvent
    hrequest (hfixed _) ⟨hfixed _, hfixed _, hfixed _⟩ isWhole_blankBus isLoggable_blankWorld
    fun h => by cases h
  obtain ⟨e, he, hlevel, hfield⟩ := halves_logged
  obtain ⟨head, -, -, hparse⟩ := (hunforged e he).read
  refine ⟨_, e, _, _, rfl, rfl, he, hfield, rfl, ?_, hparse, ?_, by decide⟩
  · rw [call.run_lines]
    refine List.mem_append_right _ (List.mem_map_of_mem (List.mem_filter.2 ⟨he, ?_⟩))
    rw [decide_eq_true hlevel, Bool.true_or]
  · have hread : Object.field? "recipient" (head.top blankWorld.clock
        blankWorld.container.site.environment ++ e.fields.joined) =
        e.fields.joined.field? "recipient" := rfl
    rw [hread, Object.field?_joined, hfield]
    rfl

end Function

end Rendezvous
