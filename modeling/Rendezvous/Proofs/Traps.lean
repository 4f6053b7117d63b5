/-
  How functions end, and when they blame a request that reached their services.

  A function reads its request before it calls anything.  What it then makes of the replies is up to
  its service: it blames the request just where the replies were a trap.

  * `Function.traps`: the functions with their services, and what is a trap for them;
  * `Function.Ends`: how a function ends by what it called; `Function.run_ends`: so do all of them;
  * `Handler.told`: the response to a failure; `Function.Answers`: how an event is answered;
    `Function.invoke_answers`: so is every event.
-/
import Rendezvous.Proofs.Chat
import Rendezvous.Proofs.FairServices

namespace Rendezvous

open Act Passage

/-! ## Services -/

/-- Where a service runs. -/
def Service.site : Service → Site
  | .registry r => r.site
  | .contactBook b => b.site
  | .channel c => c.site

/-- The names of the tables of the service that a world has under a name. -/
def World.tableNames (w : World) (name : Text) : TableNames :=
  match (w.container.resolve (.str name)).1 with
  | .ok (_, service) => service.site.tables
  | .error _ => w.container.site.tables

/-! ## Traps -/

namespace Exchange

/-- A record is replied that cannot be decoded. -/
def HidesRecord : Exchange → Prop
  | .store (.getIdentity _) reply =>
    Shows IdentityItem.createdAt (fun item => ∃ e, item.toRecord = .error e) reply
  | _ => False

/-- A contact is replied whose address cannot be decoded. -/
def HidesAddress : Exchange → Prop
  | .store (.getContact _ _) reply =>
    Shows ContactItem.updatedAt (fun item => ∃ e, item.addressBytes = .error e) reply
  | _ => False

/-- A contact is replied whose address cannot be decoded, or whose name, if it is at an address. -/
def HidesContact (address : Bytes) : Exchange → Prop
  | .store (.getContact _ _) reply =>
    Shows ContactItem.updatedAt (fun item => ∃ e, item.readAt address = .error e) reply
  | _ => False

/-- A transaction fails by what the table library tells as an unusable value. -/
def IsMistold (names : TableNames) : Exchange → Prop
  | .store (.register record binding) (.error failure) => ∃ reason,
    (StoreCall.register record binding).explain names failure = .unusable reason
  | _ => False

end Exchange

namespace Function

/-- The exchanges of a request that lead a function to blame it. -/
abbrev Trap := Request → TableNames → List Exchange → Prop

/-- None. -/
def never : Trap := fun _ _ _ => False

/-- The bus refuses the notification as an unusable value. -/
def unsent : Trap := fun _ _ made => ∃ ex ∈ made, ex.IsReproach

/-- The registration is told as an unusable value. -/
def mistold : Trap := fun _ names made => ∃ ex ∈ made, ex.IsMistold names

/-- The record cannot be decoded. -/
def undecodable : Trap := fun _ _ made => ∃ ex ∈ made, ex.HidesRecord

/-- The contact at the address of the request cannot be decoded, or what is found when it is looked
    for once more. -/
def unreadable : Trap
  | request, _, first :: rest => ∃ address, Field.bytesIn request.body "addr" = .ok address ∧
    (first.HidesContact address ∨ ∃ ex ∈ rest, ex.HidesAddress)
  | _, _, [] => False

theorem unreadable_cons {request : Request} {names : TableNames} {address : Bytes}
    {first : Exchange} {rest : List Exchange} (h : Field.bytesIn request.body "addr" = .ok address) :
    unreadable request names (first :: rest) ↔
      first.HidesContact address ∨ ∃ ex ∈ rest, ex.HidesAddress := by
  constructor
  · rintro ⟨address', haddress, hhides⟩
    obtain rfl := Except.ok.inj (h.symm.trans haddress)
    exact hhides
  · exact fun hhides => ⟨address, h, hhides⟩

/-- The functions, the names of their services, and what is a trap for them. -/
def traps : List (Function × Text × Trap) :=
  [(chatAnswer, "signal_channel", unsent), (chatOffer, "signal_channel", unsent),
   (contactGet, "contact_book", unreadable), (contactRemove, "contact_book", never),
   (contactUpsert, "contact_book", never), (identityGet, "identity_registry", undecodable),
   (identityRegister, "identity_registry", mistold)]

theorem traps_functions : traps.map (·.1) = all := rfl

variable {f : Function} {service : Text} {trap : Trap}

/-- The response to a request that was carried out. -/
def CarriedOut (response : Value) : Prop :=
  ∃ data metadata : Object, response =
    .obj [("success", .bool true), ("data", .obj data), ("metadata", .obj metadata)]

/-- How a function ends that has made no calls before: the request is carried out, and then there
    was no trap, or the failure is told, and if anything was called, it blames the request just
    where there was a trap. -/
def Ends (names : TableNames) (trapped : List Exchange → Prop) (x : Except Failure Value)
    (p : Passage) : Prop :=
  match x with
  | .ok response => CarriedOut response ∧ ¬trapped p.calls
  | .error e => p.Tells names e ∧ (p.calls ≠ [] → (e.Blames ↔ trapped p.calls))

variable {α : Type} {names : TableNames} {trapped : List Exchange → Prop} {p p' : Passage}

theorem ensures_carriedOut (function : Text) (operation : Operation) (data metadata : Object) :
    (success function operation data metadata).Ensures foreign (fun x p' =>
      p'.calls = p.calls ∧ ∃ response, x = .ok response ∧ CarriedOut response) p := by
  unfold success
  simp only [bind_eq, pure_eq]
  exact ensures_now fun _ h => ⟨h.calls, _, rfl, _, _, rfl⟩

/-- A fair part of a function is the last that it has to call, after calls that were no trap. -/
theorem ends_fair {t : Exchange → Prop} {act : Act α} {f : α → Act Value}
    (hp : ∀ ex ∈ p.calls, ¬t ex) (h : act.Ensures foreign (Fair names t p) p)
    (htrap : ∀ made, trapped made ↔ ∃ ex ∈ made, t ex)
    (hf : ∀ a p', (f a).Ensures foreign (fun x p'' => p''.calls = p'.calls ∧ ∃ response,
      x = .ok response ∧ CarriedOut response) p') :
    (act.bind f).Ensures foreign (Ends names trapped) p := by
  refine h.bind ?_ ?_
  · rintro a p₁ ⟨made, h1, hno⟩
    refine (hf a p₁).mono ?_
    rintro _ p₂ ⟨h2, response, rfl, hresponse⟩
    refine ⟨hresponse, ?_⟩
    rw [h2, h1, htrap]
    rintro ⟨ex, hex, ht⟩
    exact List.forall_mem_append.2 ⟨hp, hno⟩ ex hex ht
  · rintro e p₁ ⟨made, h1, he⟩
    refine ⟨he.toTells, fun _ => he.blames.trans ?_⟩
    rw [h1, htrap]
    simp only [List.mem_append, or_and_right, exists_or]
    refine (or_iff_right ?_).symm
    rintro ⟨ex, hex, ht⟩
    exact hp ex hex ht

section
variable (hp : p.calls = [])
include hp

/-- What cannot be read of a request is told before anything is called. -/
theorem ends_ofExcept {x : Except Failure α} {f : α → Act Value}
    (hx : FailsBy Failure.IsUnreported x)
    (h : ∀ a, x = .ok a → (f a).Ensures foreign (Ends names trapped) p) :
    ((Act.ofExcept x).bind f).Ensures foreign (Ends names trapped) p := by
  cases x with
  | ok a => exact h a rfl
  | error e => exact ⟨tells_unreported (hx e rfl), fun hcalls => (hcalls hp).elim⟩

/-- A service is asked for before anything is called. -/
theorem ends_service {f : Service → Act Value} (hn : p.world.tableNames service = names)
    (h : ∀ found p', p'.calls = [] → p'.world.transports = p.world.transports →
      found.site.tables = names → (f found).Ensures foreign (Ends names trapped) p') :
    ((Act.service service).bind f).Ensures foreign (Ends names trapped) p := by
  rintro reply p' ⟨-, hreply, h1⟩
  have hcalls : p'.calls = [] := by rw [h1, hp]; rfl
  have hfound : (p.world.container.resolve (.str service)).1.map (·.2) = reply :=
    congrArg Prod.fst hreply
  have hworld : (p.world.resolve (.str service)).2 = p'.world := congrArg Prod.snd hreply
  rw [World.tableNames] at hn
  cases hx : (p.world.container.resolve (.str service)).1 with
  | ok found =>
    rw [hx] at hfound hn
    obtain rfl := hfound
    exact h found.2 p' hcalls (by rw [← hworld]; rfl) hn
  | error e =>
    rw [hx] at hfound
    obtain rfl := hfound
    have hforeign : e.IsForeign := Container.isForeign_of_resolve hx
    exact ⟨tells_unreported hforeign.unreported, fun hno => (hno hcalls).elim⟩

/-- So is the only call. -/
theorem ends_weighs {κ : Type} {ex : κ → Exchange} {reason : κ → Prop} {act : Act α}
    {f : α → Act Value}
    (h : act.Ensures foreign (fun x p' => ∃ reply, Weighs names p (ex reply) (reason reply) x p') p)
    (htrap : ∀ reply, trapped [ex reply] ↔ reason reply)
    (hf : ∀ a p', (f a).Ensures foreign (fun x p'' => p''.calls = p'.calls ∧ ∃ response,
      x = .ok response ∧ CarriedOut response) p') :
    (act.bind f).Ensures foreign (Ends names trapped) p := by
  refine h.bind ?_ ?_
  · rintro a p₁ ⟨reply, h1, hno⟩
    rw [hp, List.nil_append] at h1
    refine (hf a p₁).mono ?_
    rintro _ p₂ ⟨h2, response, rfl, hresponse⟩
    exact ⟨hresponse, by rw [h2, h1, htrap]; exact hno⟩
  · rintro e p₁ ⟨reply, h1, he⟩
    rw [hp, List.nil_append] at h1
    exact ⟨he.toTells, fun _ => by rw [h1, htrap]; exact he.blames⟩

end

/-! ## Functions -/

theorem unreported_of_complains {x : Except Failure α} (h : Complains x) :
    FailsBy Failure.IsUnreported x := h.mono fun _ he => he.unreported

theorem unreported_of_mishaps {x : Except Failure α} (h : Mishaps x) :
    FailsBy Failure.IsUnreported x := fun e he => (h e he).isForeign.unreported

theorem asRegistry_unreported (service : Service) :
    FailsBy Failure.IsUnreported service.asRegistry := by
  cases service with
  | registry r => exact .ok r
  | _ => exact .error (Failure.IsForeign.unreported trivial)

theorem asContactBook_unreported (service : Service) :
    FailsBy Failure.IsUnreported service.asContactBook := by
  cases service with
  | contactBook b => exact .ok b
  | _ => exact .error (Failure.IsForeign.unreported trivial)

theorem asChannel_unreported (service : Service) :
    FailsBy Failure.IsUnreported service.asChannel := by
  cases service with
  | channel c => exact .ok c
  | _ => exact .error (Failure.IsForeign.unreported trivial)

theorem site_of_asRegistry {service : Service} {r : Registry} (h : service.asRegistry = .ok r) :
    service.site = r.site := by
  cases service <;> cases h
  rfl

theorem site_of_asContactBook {service : Service} {b : ContactBook}
    (h : service.asContactBook = .ok b) : service.site = b.site := by
  cases service <;> cases h
  rfl

theorem recipientOf_unreported (request : Request) :
    FailsBy Failure.IsUnreported (recipientOf request) :=
  (unreported_of_mishaps (Value.fieldAt_mishaps _ _)).bind fun given =>
    unreported_of_complains (Identity.validate_complains _ given)

/-- What is read of a request for a signal fails by complaints, or as its recipient does. -/
theorem read_failsBy {P : Failure → Prop} {request : Request} (hc : ∀ e : Failure, e.IsComplaint → P e)
    (hrecipient : FailsBy P (recipientOf request)) (kind : SignalKind) :
    FailsBy P (kind.read request) := by
  have hbytes {name : Text} {field : Field} (hn : name ≠ "nickname")
      (hf : Field.wireFields.lookup name = some field) : FailsBy P (Field.bytesIn request.body name) :=
    (Field.bytesIn_complains _ hn hf).mono hc
  cases kind with
  | offer =>
    refine (hbytes (by decide) rfl).bind fun welcome => ?_
    refine (hbytes (by decide) rfl).bind fun payload => ?_
    exact hrecipient.bind fun recipient => .ok _
  | answer =>
    refine (hbytes (by decide) rfl).bind fun payload => ?_
    exact hrecipient.bind fun recipient => .ok _

theorem read_unreported (request : Request) (kind : SignalKind) :
    FailsBy Failure.IsUnreported (kind.read request) :=
  read_failsBy (fun _ he => he.unreported) (recipientOf_unreported request) kind

theorem recordOf_fair {service : Service} (hsite : service.site.tables = names) (identity : Value) :
    (recordOf service identity).Ensures foreign (Fair names Exchange.HidesRecord p) p := by
  unfold recordOf
  simp only [bind_eq, liftM_eq, pure_eq]
  split
  · cases service with
    | registry r =>
      obtain rfl : r.site.tables = names := hsite
      refine (r.findRecord_weighs identity).mono ?_
      rintro x p₁ ⟨reply, hweighs⟩
      exact hweighs.fair Iff.rfl
    | _ => exact fair_error rfl (justifies_defect _ _)
  · exact fair_ok rfl none

section
variable (hp : p.calls = []) (request : Request)
include hp

theorem chat_ends (hw : p.world.IsWired) (hn : p.world.tableNames "signal_channel" = names)
    (kind : SignalKind) :
    (kind.function.run request).Ensures foreign (Ends names (unsent request names)) p := by
  rw [SignalKind.run_eq]
  refine ends_ofExcept hp (read_unreported request kind) fun signal hread => ?_
  obtain ⟨-, recipient, hasks⟩ := SignalKind.read_eq_ok_iff.1 hread
  unfold SignalKind.send
  refine ends_service hp hn fun service p₁ h1 htransports _ => ?_
  refine ends_ofExcept h1 (asChannel_unreported service) fun channel _ => ?_
  have hw₁ : p₁.world.IsWired := by rwa [World.IsWired, htransports]
  rw [Signal.check_of_asks hasks]
  exact ends_fair (h1 ▸ List.forall_mem_nil _) (channel.relay_fair hw₁ signal) (fun made => Iff.rfl)
    fun s p₂ => ensures_carriedOut _ _ _ _

theorem contactUpsert_ends (hn : p.world.tableNames "contact_book" = names) :
    (contactUpsert.run request).Ensures foreign (Ends names (never request names)) p := by
  simp only [contactUpsert, bind_eq, liftM_eq]
  refine ends_ofExcept hp (unreported_of_complains (Field.bytesIn_complains _ (by decide) rfl))
    fun name hname => ?_
  refine ends_ofExcept hp (unreported_of_complains (Field.bytesIn_complains _ (by decide) rfl))
    fun address haddress => ?_
  refine ends_service hp hn fun service p₁ h1 _ hsite => ?_
  refine ends_ofExcept h1 (asContactBook_unreported service) fun book hbook => ?_
  have hlength : name.length = Field.contactName.width :=
    Field.length_of_bytesIn (by decide) rfl hname
  have hlength' : address.length = Field.contactAddress.width :=
    Field.length_of_bytesIn (by decide) rfl haddress
  obtain rfl : book.site.tables = names := site_of_asContactBook hbook ▸ hsite
  exact ends_weighs h1 (book.upsert_weighs ⟨⟨request.caller, address, hlength'⟩, name, hlength⟩)
    (fun reply => Iff.rfl) fun record p₂ => ensures_carriedOut _ _ _ _

theorem contactRemove_ends (hn : p.world.tableNames "contact_book" = names) :
    (contactRemove.run request).Ensures foreign (Ends names (never request names)) p := by
  simp only [contactRemove, bind_eq, liftM_eq]
  refine ends_ofExcept hp (unreported_of_complains (Field.bytesIn_complains _ (by decide) rfl))
    fun address haddress => ?_
  refine ends_service hp hn fun service p₁ h1 _ hsite => ?_
  refine ends_ofExcept h1 (asContactBook_unreported service) fun book hbook => ?_
  obtain rfl : book.site.tables = names := site_of_asContactBook hbook ▸ hsite
  exact ends_weighs h1 (book.remove_weighs (.str request.caller) address)
    (fun reply => Iff.rfl) fun _ p₂ => ensures_carriedOut _ _ _ _

theorem contactGet_ends (hn : p.world.tableNames "contact_book" = names) :
    (contactGet.run request).Ensures foreign (Ends names (unreadable request names)) p := by
  simp only [contactGet, bind_eq, liftM_eq]
  refine ends_service hp hn fun service p₁ h1 _ hsite => ?_
  split
  · refine ends_ofExcept h1 (unreported_of_complains (Field.bytesIn_complains _ (by decide) rfl))
      fun address haddress => ?_
    refine ends_ofExcept h1 (asContactBook_unreported service) fun book hbook => ?_
    obtain rfl : book.site.tables = names := site_of_asContactBook hbook ▸ hsite
    -- two calls are made, and the second one only if the first one was no trap
    refine (book.get_weighs (.str request.caller) address).bind ?_ ?_
    · rintro record p₂ ⟨first, h2, hfirst⟩
      rw [h1, List.nil_append] at h2
      refine (book.contains_weighs (.str request.caller) address).bind ?_ ?_
      · rintro present p₃ ⟨second, h3, hsecond⟩
        refine (ensures_carriedOut _ _ _ _).mono ?_
        rintro _ p₄ ⟨h4, response, rfl, hresponse⟩
        refine ⟨hresponse, ?_⟩
        rw [h4, h3, h2, List.singleton_append, unreadable_cons haddress]
        rintro (hhides | ⟨ex, hex, hhides⟩)
        · exact hfirst hhides
        · obtain rfl := List.mem_singleton.1 hex
          exact hsecond hhides
      · rintro e p₃ ⟨second, h3, he⟩
        refine ⟨he.toTells, fun _ => he.blames.trans ?_⟩
        rw [h3, h2, List.singleton_append, unreadable_cons haddress]
        simp only [List.mem_singleton, exists_eq_left]
        exact (or_iff_right hfirst).symm
    · rintro e p₂ ⟨first, h2, he⟩
      refine ⟨he.toTells, fun _ => he.blames.trans ?_⟩
      rw [h2, h1, List.nil_append, unreadable_cons haddress]
      simp only [List.not_mem_nil, false_and, exists_false, or_false]
      rfl
  · refine ends_ofExcept h1 (asContactBook_unreported service) fun book hbook => ?_
    obtain rfl : book.site.tables = names := site_of_asContactBook hbook ▸ hsite
    refine ends_weighs h1 (book.list_weighs (.str request.caller)) (fun reply => ?_)
      fun contacts p₂ => ensures_carriedOut _ _ _ _
    simp [unreadable, Exchange.HidesContact]

theorem identityGet_ends (hn : p.world.tableNames "identity_registry" = names) :
    (identityGet.run request).Ensures foreign (Ends names (undecodable request names)) p := by
  simp only [identityGet, bind_eq]
  refine ends_service hp hn fun service p₁ h1 _ hsite => ?_
  -- whichever way the identity is found, its record is looked for
  have hrecord (wanted : Value × Text) {p₂ : Passage}
      (hno : ∀ ex ∈ p₂.calls, ¬Exchange.HidesRecord ex) :
      ((recordOf service wanted.1).bind fun found => success "identity-get" .getIdentity
        [("record", .obj ((found.getD AddressRecord.empty).toObject wanted.1
          (.bool found.isSome)))] [("lookup", .str wanted.2)]).Ensures foreign
        (Ends names (undecodable request names)) p₂ :=
    ends_fair hno (recordOf_fair hsite wanted.1) (fun made => Iff.rfl)
      fun found p₃ => ensures_carriedOut _ _ _ _
  have hnone : ∀ ex ∈ p₁.calls, ¬Exchange.HidesRecord ex := h1 ▸ List.forall_mem_nil _
  unfold wantedIdentity
  simp only [bind_eq, liftM_eq, pure_eq]
  split
  · simp only [Act.bind_assoc, done_bind]
    refine ends_ofExcept h1 (unreported_of_complains (Field.nickname_complains _))
      fun nickname _ => ?_
    refine ends_ofExcept h1 (asRegistry_unreported service) fun registry hregistry => ?_
    obtain rfl : registry.site.tables = names := site_of_asRegistry hregistry ▸ hsite
    have hbinding (key : Text) (reply : Except Failure (Option BindingItem)) :
        ¬(Exchange.store (.getBinding key) reply).HidesRecord := id
    refine (registry.resolveNickname_fair hbinding nickname).bind ?_ ?_
    · rintro owner p₂ ⟨made, h2, hno⟩
      rw [h1, List.nil_append] at h2
      exact hrecord (owner, "nickname") (h2 ▸ hno)
    · rintro e p₂ ⟨made, h2, he⟩
      rw [h1, List.nil_append] at h2
      exact ⟨he.toTells, fun _ => by rw [h2]; exact he.blames⟩
  · split
    · simp only [Act.bind_assoc, done_bind]
      refine ends_ofExcept h1 (unreported_of_complains (Identity.validate_complains _ _))
        fun identity _ => ?_
      exact hrecord (.str identity, "identity") hnone
    · exact hrecord (.str request.caller, "identity") hnone

theorem identityRegister_ends (hn : p.world.tableNames "identity_registry" = names) :
    (identityRegister.run request).Ensures foreign (Ends names (mistold request names)) p := by
  simp only [identityRegister, bind_eq, liftM_eq, fail_bind]
  split
  · exact ⟨tells_unreported (Failure.isComplaint_atField _ _).unreported, fun hno => (hno hp).elim⟩
  · refine ends_ofExcept hp (unreported_of_complains (Field.nickname_complains _))
      fun nickname hnickname => ?_
    refine ends_ofExcept hp (unreported_of_complains (Field.bytesIn_complains _ (by decide) rfl))
      fun address haddress => ?_
    refine ends_service hp hn fun service p₁ h1 _ hsite => ?_
    refine ends_ofExcept h1 (asRegistry_unreported service) fun registry hregistry => ?_
    have hlength := Field.length_of_nickname hnickname
    have hlength' : address.length = Field.address.width :=
      Field.length_of_bytesIn (by decide) rfl haddress
    obtain rfl : registry.site.tables = names := site_of_asRegistry hregistry ▸ hsite
    have hput (record : IdentityItem) (binding : BindingItem) (reply : Except Failure Unit) :
        (Exchange.store (.register record binding) reply).IsMistold registry.site.tables ↔
          ∃ failure reason, reply = .error failure ∧ (StoreCall.register record binding).explain
            registry.site.tables failure = .unusable reason := by
      cases reply with
      | ok u => simp [Exchange.IsMistold]
      | error failure => simp [Exchange.IsMistold]
    refine ends_fair (h1 ▸ List.forall_mem_nil _) (registry.register_fair (fun _ _ => id) (fun _ _ => id)
      ⟨request.caller, nickname, address, hlength, hlength'⟩ hput) (fun made => Iff.rfl)
      fun record p₂ => ensures_carriedOut _ _ _ _

end

/-- All functions end so. -/
theorem run_ends (hf : (f, service, trap) ∈ traps) (hw : p.world.IsWired) (hp : p.calls = [])
    (hn : p.world.tableNames service = names) (request : Request) :
    (f.run request).Ensures foreign (Ends names (trap request names)) p := by
  simp only [traps, List.mem_cons, Prod.mk.injEq, List.not_mem_nil, or_false] at hf
  rcases hf with ⟨rfl, rfl, rfl⟩ | ⟨rfl, rfl, rfl⟩ | ⟨rfl, rfl, rfl⟩ | ⟨rfl, rfl, rfl⟩ |
    ⟨rfl, rfl, rfl⟩ | ⟨rfl, rfl, rfl⟩ | ⟨rfl, rfl, rfl⟩
  exacts [chat_ends hp request hw hn .answer, chat_ends hp request hw hn .offer,
    contactGet_ends hp request hn, contactRemove_ends hp request hn,
    contactUpsert_ends hp request hn, identityGet_ends hp request hn,
    identityRegister_ends hp request hn]

end Function

/-! ## Requests -/

namespace Request

theorem gatewayBody_unreported (event : Object) :
    FailsBy Failure.IsUnreported (gatewayBody event) := by
  unfold gatewayBody
  split
  · exact .ok _
  · rename_i t _ _
    cases Json.parse t with
    | ok v => exact .ok v
    | error refusal =>
      refine .error ?_
      cases refusal with
      | malformed => exact (Failure.isComplaint_atField _ _).unreported
      | _ => exact Failure.IsForeign.unreported trivial
  · exact .ok _

theorem authenticate_unreported (subject : Value) :
    FailsBy Failure.IsUnreported (Identity.authenticate subject) := by
  have hrefuse (message : Text) :
      (Failure.service (.authentication (.str message))).IsUnreported :=
    ServiceError.isUnreported (c := .authentication) rfl ⟨_, rfl⟩ (by decide)
  unfold Identity.authenticate
  split
  · split_ifs
    exacts [.error (hrefuse _), .error (hrefuse _), .ok _]
  · exact .error (hrefuse _)

/-- Whatever an event is, it is refused under a code of its own. -/
theorem accept_unreported (required : List Text) (event : Value) :
    FailsBy Failure.IsUnreported (accept (require required) event) := by
  have hmishaps {α : Type} {x : Except Failure α} (h : Mishaps x) :
      FailsBy Failure.IsUnreported x := Function.unreported_of_mishaps h
  refine FailsBy.bind ?_ fun request =>
    Function.unreported_of_complains (require_complains required request)
  refine FailsBy.bind ?_ fun parts => ?_
  · unfold parts
    split
    · split
      · refine (gatewayBody_unreported _).bind fun body => ?_
        refine (hmishaps (claims_mishaps _)).bind fun claims => ?_
        exact (hmishaps ((Value.fields_mishaps claims).map _)).bind fun subject => .ok _
      · exact .ok _
    · exact .ok _
  · refine (Function.unreported_of_complains (bodyFields_complains _)).bind fun body => ?_
    exact (authenticate_unreported _).bind fun caller => .ok _

end Request

/-! ## Responses -/

namespace Handler
variable {p : Passage}

/-- The response to a failure that nobody expects: it tells nothing of it. -/
def unexpected (function : Text) (now : Instant) : Value :=
  Response.failed now (.str ErrorCode.internal.text) (.str "Internal server error occurred") .null
    (.str function)

/-- The response to a failure at some time. -/
def told (function : Text) (now : Instant) : Failure → Value
  | .service e => markRetryable e.isRetryable
    (Response.failed now e.code e.message e.details (.str function))
  | .unusable reason => Response.failed now (.str ErrorCode.validation.text) (.str reason.message)
    .null (.str function)
  | _ => unexpected function now

theorem respond_told (function : Text) (e : Failure) : (respond function e).Ensures foreign
    (fun x p' => p'.calls = p.calls ∧ x = .ok (told function p.world.clock e)) p := by
  cases e with
  | service e =>
    have hlog : (logBlame e).Ensures foreign (fun x p' => x = .ok () ∧ p.Rests p') p := by
      cases e with
      | validation message field value hints => exact ensures_note fun p₁ h1 => ⟨rfl, h1⟩
      | _ => exact ⟨rfl, Rests.refl p⟩
    refine hlog.bind ?_ fun e p₁ h => by cases h.1
    rintro _ p₁ ⟨-, h1⟩
    refine ensures_now fun p₂ h2 => ?_
    rw [h1.clock]
    exact ⟨(h1.trans h2).calls, rfl⟩
  | _ =>
    refine ensures_note fun p₁ h1 => ensures_now fun p₂ h2 => ?_
    rw [h1.clock]
    exact ⟨(h1.trans h2).calls, rfl⟩

theorem succeeded_told (function : Text) (now : Instant) (e : Failure) :
    Response.succeeded (told function now e) = false := by
  cases e with
  | service e => rw [told, (read_markRetryable _ _).1]; rfl
  | _ => rfl

/-- A response blames the request just where the failure does. -/
theorem blames_told {function : Text} {now : Instant} {e : Failure} :
    Response.Blames (told function now e) ↔ e.Blames := by
  rw [Response.Blames, succeeded_told]
  cases e with
  | service e => simp [told, (read_markRetryable _ _).2, Failure.Blames]
  | unusable reason => simp [told, Failure.Blames]
  | _ =>
    simp only [told, unexpected, Response.code_failed, Failure.Blames, Value.str.injEq]
    decide

end Handler

namespace Function
variable {f : Function} {service : Text} {trap : Trap} {event context response : Value}
  {names : TableNames} {p p' : Passage}

/-- How an event is answered: the request that is read from it is carried out, or an event is
    refused before anything is called, or the function fails. -/
inductive Answers (f : Function) (event : Value) (names : TableNames) (trap : Trap) (p : Passage)
    (response : Value) : Prop
  | carriedOut {request : Request} :
    Request.accept (Request.require f.required) event = .ok request → CarriedOut response →
    ¬trap request names p.calls → Answers f event names trap p response
  | refused {e : Failure} : Request.accept (Request.require f.required) event = .error e →
    p.Tells names e → p.calls = [] → response = Handler.told handlerName p.world.clock e →
    Answers f event names trap p response
  | failed {request : Request} {e : Failure} :
    Request.accept (Request.require f.required) event = .ok request → p.Tells names e →
    (p.calls ≠ [] → (e.Blames ↔ trap request names p.calls)) →
    response = Handler.told handlerName p.world.clock e → Answers f event names trap p response

theorem Answers.of_same (h : f.Answers event names trap p response) (hcalls : p'.calls = p.calls)
    (hclock : p'.world.clock = p.world.clock) : f.Answers event names trap p' response := by
  have hmono (e : Failure) (he : p.Tells names e) : p'.Tells names e :=
    he.mono fun ex hex => hcalls ▸ hex
  cases h with
  | carriedOut haccept hresponse hno => exact .carriedOut haccept hresponse (hcalls ▸ hno)
  | refused haccept he hnone hresponse =>
    exact .refused haccept (hmono _ he) (hcalls.trans hnone) (hclock ▸ hresponse)
  | failed haccept he hblames hresponse =>
    exact .failed haccept (hmono _ he) (hcalls ▸ hblames) (hclock ▸ hresponse)

theorem answer_answers (hf : (f, service, trap) ∈ traps) (hw : p.world.IsWired)
    (hp : p.calls = []) (hn : p.world.tableNames service = names) (event : Value) :
    (f.handler.answer event).Ensures foreign
      (fun x p' => ∃ response, x = .ok response ∧ f.Answers event names trap p' response) p := by
  -- a failure is responded to without a call
  have hrespond {e : Failure} {p₁ : Passage}
      (h : ∀ p', p'.calls = p₁.calls → p'.world.clock = p₁.world.clock →
        f.Answers event names trap p' (Handler.told handlerName p'.world.clock e)) :
      (Handler.respond handlerName e).Ensures foreign
        (fun x p' => ∃ response, x = .ok response ∧ f.Answers event names trap p' response) p₁ := by
    refine ((Handler.respond_told handlerName e).and (ensures_clock _)).mono ?_
    rintro _ p₂ ⟨⟨h2, rfl⟩, hclock⟩
    exact ⟨_, rfl, hclock ▸ h p₂ h2 hclock⟩
  unfold Handler.answer
  simp only [bind_eq, liftM_eq, pure_eq, handler]
  cases haccept : Request.accept (Request.require f.required) event with
  | error e =>
    refine hrespond fun p₁ h1 _ => ?_
    have he := Request.accept_unreported f.required event e haccept
    exact .refused haccept (tells_unreported he) (h1.trans hp) rfl
  | ok request =>
    refine (run_ends hf hw hp hn request).attempt_bind ?_
    rintro x p₁ hends
    cases x with
    | ok response => exact ⟨response, rfl, .carriedOut haccept hends.1 hends.2⟩
    | error e =>
      refine hrespond fun p₂ h2 _ => ?_
      exact .failed haccept (hends.1.mono fun ex hex => h2 ▸ hex) (h2 ▸ hends.2) rfl

/-- A call answers its event, and delivers the response if it can. -/
theorem invoke_answers (hf : (f, service, trap) ∈ traps) (hw : p.world.IsWired)
    (hp : p.calls = []) (hn : p.world.tableNames service = names) (event context : Value) :
    (f.invoke event context).Ensures foreign (fun x p' => ∃ response,
      f.Answers event names trap p' response ∧
        ∀ answer, x = .ok answer → Handler.deliver event response = .ok answer) p := by
  rw [invoke_eq]
  intro start p₁ hstart _ p₂ hlog
  have hbegun := (rests_of_stopwatch hstart).trans (rests_of_log hlog)
  have hw₂ : p₂.world.IsWired := by rwa [World.IsWired, hbegun.transports]
  have hn₂ : p₂.world.tableNames service = names := by
    rwa [World.tableNames, hbegun.container]
  simp only [served, Act.bind_assoc, done_bind]
  refine (answer_answers hf hw₂ (hbegun.calls.trans hp) hn₂ event).bind ?_ ?_
  · rintro response p₃ ⟨_, hx, h3⟩
    obtain rfl := Except.ok.inj hx
    have hposes := Handler.logEnd_poses Query.hasQuiet_not_isCall.hasIdle handlerName start response
    refine ((ensures_of_poses hposes).and (ensures_clock _)).bind ?_ ?_
    · rintro _ p₄ ⟨h4, hclock⟩
      exact ensures_ofExcept.2 ⟨response, h3.of_same h4 hclock, fun _ => id⟩
    · rintro e p₄ ⟨h4, hclock⟩
      exact ⟨response, h3.of_same h4 hclock, fun _ he => by cases he⟩
  · rintro e p₃ ⟨_, hx, -⟩
    cases hx

end Function
end Rendezvous
