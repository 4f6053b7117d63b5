/-
  Every nickname can be claimed, and is found again.

  A nickname of whatever bytes is spelled by the digits of a text, in more ways than one.  Where it
  belongs to nobody, a caller without a nickname claims it; from then on it is found by each of its
  spellings, whatever else is called.

  * `Field.Spells`: a request body spells a nickname; `spells_encodeHex`: every nickname is spelled
    by its own digits;
  * `Request.Brings`: an event brings a request, by itself or by the gateway;
  * `Function.Follows`: tables that come of further calls of the functions;
  * `Function.invoke_claims`: a nickname is claimed, and found again.
-/
import Rendezvous.Proofs.Lookup
import Rendezvous.Proofs.Registering
import Rendezvous.Proofs.Roll

namespace Rendezvous

open Act

/-! ## Requests -/

namespace Field

/-- A request body spells the exact bytes of a nickname. -/
def Spells (body : Object) (nickname : Bytes) : Prop :=
  ∃ t : Text, t ≠ [] ∧ Object.field? "nickname_hex" body = some (.str t) ∧
    decodeHex 21 (.str "nickname_hex") (.str t) = .ok nickname

variable {body : Object} {nickname : Bytes}

/-- Every nickname is spelled by its own digits, whatever else is in the body. -/
theorem spells_encodeHex (h : nickname.length = Field.nickname.width)
    (hb : Object.field? "nickname_hex" body = some (.str (encodeHex nickname))) :
    Spells body nickname := by
  refine ⟨_, ?_, hb, decodeHex_encodeHex _ h⟩
  rw [encodeHex]
  exact List.cons_ne_nil _ _

/-- Exact bytes are a nickname, and go before a text. -/
theorem Spells.isGiven (h : Spells body nickname) :
    hasNickname body = true ∧ bytesIn body "nickname" = .ok nickname := by
  obtain ⟨t, ht, hb, hn⟩ := h
  have hexact : Object.fieldOrNull "nickname_hex" body = .str t := by
    rw [Object.fieldOrNull, hb, Option.getD_some]
  have htruthy : (Value.str t).isTruthy = true := by
    cases t with
    | nil => exact absurd rfl ht
    | cons c t => rfl
  constructor
  · rw [hasNickname, hexact, htruthy, Bool.true_or]
  · rw [bytesIn, if_pos rfl, nicknameIn]
    simp only [hexact, htruthy, if_true]
    exact hn

end Field

namespace Request

/-- An event brings the body of a request and names its caller: it is the body itself, or the
    gateway wraps it. -/
inductive Brings (caller : Text) (body : Object) : Value → Prop
  | direct : body.has "requestContext" = false → body.field? "caller" = some (.str caller) →
    Brings caller body (.obj body)
  | gateway {event : Object} : Wraps event body caller → Brings caller body (.obj event)

variable {caller : Text} {body : Object} {event : Value}

theorem Brings.ofEvent (h : Brings caller body event) (hc : Identity.IsCaller caller) :
    ofEvent event = .ok ⟨caller, body⟩ := by
  cases h with
  | direct hdirect hcaller =>
    have hparts : parts (.obj body) = .ok (.obj body, .str caller) := by
      have hgateway : isGatewayEvent (.obj body) = false := hdirect
      rw [parts, hgateway, Object.fieldOrNull, hcaller]
      rfl
    rw [Request.ofEvent, hparts]
    simp only [Bind.bind, Except.bind, bodyFields, hc.authenticate]
    rfl
  | gateway hwraps => exact hwraps.ofEvent hc

/-- A request is admitted that lacks nothing. -/
theorem Brings.accept (h : Brings caller body event) (hc : Identity.IsCaller caller)
    {required : List Text} (hr : ∀ name ∈ required, Field.isMissing body name = false) :
    accept (require required) event = .ok ⟨caller, body⟩ := by
  have hmissing : Field.missingFrom required (.obj body) = [] :=
    List.filter_eq_nil_iff.2 fun name hname => by rw [hr name hname]; exact Bool.false_ne_true
  rw [Request.accept, h.ofEvent hc]
  simp only [Except.bind, require, hmissing]

end Request

/-! ## Claiming -/

namespace Function

section
variable {σ : Type} {c : Course σ} {s : σ} {a : Application} {body : Object}

/-- Where both keys are free and nobody else puts anything, the registration is put and told. -/
theorem identityRegister_puts (hc : c.Hosts) (hsolitary : c.Solitary) (hp : (c.tables s).Paired)
    (hfree : (c.tables s).registered a.caller = false)
    (hunbound : (c.tables s).bound a.nickname = false) (hgiven : Field.hasNickname body = true)
    (hn : Field.bytesIn body "nickname" = .ok a.nickname)
    (haddress : Field.bytesIn body "address" = .ok a.address) :
    (identityRegister.run ⟨a.caller, body⟩).Ensures c.answer (fun x s' => ∃ response,
      x = .ok response ∧ Response.IsWritable response ∧ Response.Tells response a.told ∧
        ∃ now, now.IsDated ∧ c.tables s' = (c.tables s).enroll a now) s := by
  simp only [identityRegister, bind_eq, liftM_eq, hgiven, Bool.not_true, Bool.false_eq_true,
    if_false, hn, haddress, ofExcept_ok, done_bind]
  intro reply s₁ hr
  obtain ⟨h1, r, rfl⟩ := hc.registry hr
  have hsame := hsolitary h1
  simp only [ofExcept_ok, done_bind, Service.asRegistry]
  refine (r.register_settles (a := a) (c.paired h1 hp) (Or.inr hsolitary)).bind ?_ ?_
  · intro record s₂ hsettled
    cases hsettled with
    | @put m m' _ now h2 _ h3 hd _ htables =>
      refine (success_tells rfl rfl).mono ?_
      rintro x s₃ ⟨response, rfl, h4, hwritable, htells⟩
      refine ⟨response, rfl, hwritable, htells, now, hd, ?_⟩
      rw [hsolitary (c.trans h3 h4), htables, hsolitary h2, hsame]
  · intro e s₂ hsettled
    cases hsettled with
    | refused hchecked =>
      -- what the refusal tells was not so at first, and nobody else has put anything
      cases hchecked with
      | registered h2 _ hregistered =>
        rw [hsolitary h2, hsame, hfree] at hregistered
        cases hregistered
      | bound h2 h3 _ _ hbound =>
        rw [hsolitary h3, hsolitary h2, hsame, hunbound] at hbound
        cases hbound

end

/-! ## Later calls -/

/-- Tables that come of further calls of the functions.  Calls of the store and of the event bus may
    fail, and it does not matter how an event is answered. -/
inductive Follows (t : Tables) : Tables → Prop
  | refl : Follows t t
  | invoked {f : Function} {w : World} (event context : Value) : f ∈ all → Follows t w.tables →
      w.IsTroubled .remote → Follows t ((f.invoke event context).run w).2.tables

variable {t t' : Tables}

/-- Whatever is called, the tables stay sound, and what is registered stays registered. -/
theorem Follows.grows (h : Follows t t') (ht : t.Sound) (hempty : t.registered [] = false) :
    t'.Sound ∧ t'.registered [] = false ∧ t.Kept t' := by
  induction h with
  | refl => exact ⟨ht, hempty, .refl t⟩
  | invoked event context hf _ hw ih =>
    obtain ⟨hs, he, hkept⟩ := ih
    have henlarges := invoke_enlarges hf hw hs event context
    exact ⟨invoke_sound hf hw hs event context, henlarges.unregistered_empty he,
      hkept.trans henlarges.kept⟩

end Function

/-! ## One caller alone -/

/-- One caller alone in a quiet world in which functions are served. -/
def Course.hosting : Course World :=
  { Course.quiet with
    answer := World.within World.IsHosting
    log := fun h => Course.quiet.log ⟨h.1.quiet, h.2⟩
    now := fun h => Course.quiet.now ⟨h.1.quiet, h.2⟩
    read := fun hcall h => Course.quiet.read hcall ⟨h.1.quiet, h.2⟩
    register := fun h => Course.quiet.register ⟨h.1.quiet, h.2⟩ }

namespace Course

theorem hosting_solitary : hosting.Solitary := fun h => h

theorem hosting_hosts : hosting.Hosts where
  timed := World.timed_within (fun _ hw => hw.timed) hosting.refl hosting.trans
    fun w _ hq => World.reply_tables_of_not_isCall hq w
  registry := by
    rintro w reply w' ⟨hw, hreply⟩
    have htables : (w.reply (.service (.str "identity_registry"))).2.tables = w.tables :=
      World.reply_tables_of_not_isCall rfl w
    obtain ⟨r, hr⟩ := hw.registry.service
    rw [hreply] at htables
    exact ⟨htables, r, (congrArg Prod.fst hreply).symm.trans hr⟩

/-- What a call ensures of one caller alone, its run does. -/
theorem ensures_run_hosting {α : Type} {Q : Except Failure α → World → Prop} {act : Act α}
    {w : World} (hw : w.IsHosting) (h : act.Ensures hosting.answer Q w) :
    Q (act.run w).1 (act.run w).2 :=
  Act.ensures_run_within (fun _ q hw => hw.reply q) hw h

end Course

namespace Function

variable {w : World} {a : Application} {now : Instant} {event : Value} {body : Object}

/-- What a call ends with is the answer to its event, with a response that tells of a record. -/
def Delivers (event : Value) (x : Except Failure Value) (told : Value) : Prop :=
  ∃ answer response, x = .ok answer ∧ Response.Delivered event response answer ∧
    Response.Tells response told

/-- A registration is found by each spelling of its nickname. -/
theorem invoke_finds (hw : w.IsHosting) (hp : w.tables.Paired)
    (hempty : w.tables.registered [] = false) (ha : w.tables.Holds a now) {request : Request}
    (haccept : Request.accept (Request.require identityGet.required) event = .ok request)
    (hspells : Field.Spells request.body a.nickname) (context : Value) :
    Delivers event ((identityGet.invoke event context).run w).1 a.told := by
  obtain ⟨hgiven, hn⟩ := hspells.isGiven
  have hempty' : ∀ w', Course.hosting.passes w w' →
      (Course.hosting.tables w').registered [] = false := by
    intro w' hsame
    rw [Course.hosting_solitary hsame]
    exact hempty
  obtain ⟨answer, response, hanswer, hdelivered, hresolves⟩ := Course.ensures_run_hosting hw
    (invoke_resolves Course.hosting_hosts hp hempty' haccept hgiven hn context)
  refine ⟨answer, response, hanswer, hdelivered, ?_⟩
  cases hresolves with
  | nobody hm _ hunbound _ =>
    rw [Course.hosting_solitary hm] at hunbound
    have hbound : (Course.hosting.tables w).bound a.nickname = true := ha.bound
    rw [hunbound] at hbound
    cases hbound
  | @owner b later m hm _ hnb hb htells =>
    rw [Course.hosting_solitary hm] at hb
    have hcaller := hb.eq_of_nickname ha hnb
    obtain ⟨hnickname, haddress⟩ := hb.eq_of_caller ha hcaller
    have hsame : b.told = a.told := by
      rw [Application.told, Application.told, hcaller, hnickname, haddress]
    exact hsame ▸ htells

/-- An application for what is free is put and told. -/
theorem invoke_registers (hw : w.IsHosting) (hp : w.tables.Paired)
    (hfree : w.tables.registered a.caller = false) (hunbound : w.tables.bound a.nickname = false)
    (haccept : Request.accept (Request.require identityRegister.required) event =
      .ok ⟨a.caller, body⟩) (hspells : Field.Spells body a.nickname)
    (haddress : Field.bytesIn body "address" = .ok a.address) (context : Value) :
    Delivers event ((identityRegister.invoke event context).run w).1 a.told ∧
      ∃ now, now.IsDated ∧
        ((identityRegister.invoke event context).run w).2.tables = w.tables.enroll a now := by
  obtain ⟨hgiven, hn⟩ := hspells.isGiven
  have hput : ∀ w₁, Course.hosting.passes w w₁ → (identityRegister.run ⟨a.caller, body⟩).Ensures
      Course.hosting.answer (fun x w₂ => ∃ response, x = .ok response ∧
        Response.IsWritable response ∧ Response.Tells response a.told ∧
          ∃ now, now.IsDated ∧ w₂.tables = w.tables.enroll a now) w₁ := by
    intro w₁ h1
    have hsame : Course.hosting.tables w₁ = w.tables := Course.hosting_solitary h1
    refine (identityRegister_puts Course.hosting_hosts Course.hosting_solitary (hsame ▸ hp)
      (hsame ▸ hfree) (hsame ▸ hunbound) hgiven hn haddress).mono ?_
    rintro x w₂ ⟨response, rfl, hwritable, htells, now, hd, hput⟩
    exact ⟨response, rfl, hwritable, htells, now, hd, hsame ▸ hput⟩
  obtain ⟨answer, response, w', hanswer, hdelivered, ⟨htells, now, hd, htables⟩, hsame⟩ :=
    Course.ensures_run_hosting hw (invoke_accepted Course.hosting_hosts haccept context hput)
  exact ⟨⟨answer, response, hanswer, hdelivered, htells⟩, now, hd,
    (Course.hosting_solitary hsame).trans htables⟩

/-- A nickname that belongs to nobody is claimed by each of its spellings, whoever claims it and
    with whatever valid address; and whatever is called later, each of its spellings finds the
    claim. -/
theorem invoke_claims (hw : w.IsHosting) (ht : Reaches w.tables)
    (hcaller : Identity.IsCaller a.caller) (hbrings : Request.Brings a.caller body event)
    (hspells : Field.Spells body a.nickname) (hgiven : Field.isMissing body "address" = false)
    (haddress : Field.bytesIn body "address" = .ok a.address)
    (hfree : w.tables.registered a.caller = false) (hunbound : w.tables.bound a.nickname = false)
    (context : Value) :
    Delivers event ((identityRegister.invoke event context).run w).1 a.told ∧
    ∀ w', Follows ((identityRegister.invoke event context).run w).2.tables w'.tables →
      w'.IsHosting → ∀ {caller : Text} {body : Object} {event : Value} (context : Value),
        Identity.IsCaller caller → Request.Brings caller body event →
          Field.Spells body a.nickname →
            Delivers event ((identityGet.invoke event context).run w').1 a.told := by
  have hnames : ∀ name ∈ identityRegister.required, Field.isMissing body name = false :=
    List.forall_mem_singleton.2 hgiven
  have haccept := hbrings.accept hcaller hnames
  obtain ⟨hdelivers, now, hd, htables⟩ := invoke_registers hw ht.sound.paired hfree hunbound haccept
    hspells haddress context
  refine ⟨hdelivers, ?_⟩
  intro w' hfollows hw' caller' body' event' context' hcaller' hbrings' hspells'
  rw [htables] at hfollows
  have hadmits := Tables.admits_iff.2 ⟨hfree, hunbound⟩
  have henlarges : w.tables.Enlarges (w.tables.enroll a now) :=
    Or.inr ⟨a, now, Request.caller_ne_nil (hbrings.ofEvent hcaller), hd, hadmits, rfl⟩
  have henrolls : enrolls ⟨a.caller, body⟩ w.tables (w.tables.enroll a now) :=
    ⟨a, now, rfl, hspells.isGiven.2, haddress, hd, hadmits, rfl⟩
  obtain ⟨hsound, hempty, hkept⟩ := hfollows.grows (enrolls_sound henrolls ht.sound)
    (henlarges.unregistered_empty ht.unregistered_empty)
  exact invoke_finds hw' hsound.paired hempty (hkept.holds (Tables.holds_enroll hd))
    (hbrings'.accept hcaller' (List.forall_mem_nil _)) hspells' context'

/-- An application for the nickname of zero bytes, with a text beside them. -/
def zeroBody : Object :=
  [("caller", .str "ann"), ("nickname", .str "alice"),
   ("nickname_hex", .str (Field.encodeHex Field.nickname.zeros)), ("address", .str "0x00")]

/-- Another caller looks for two of the digits. -/
def zeroLookup : Object := [("caller", .str "bob"), ("nickname_hex", .str " 0X00")]

/-- The nickname of zero bytes is claimed by all its digits, and found by two of them. -/
theorem zeros_claimed :
    let ended := (identityRegister.invoke (.obj zeroBody) .null).run blankWorld
    blankWorld.IsHosting ∧ Reaches blankWorld.tables ∧ Identity.IsCaller "ann" ∧
      Request.Brings "ann" zeroBody (.obj zeroBody) ∧
      Field.Spells zeroBody Field.nickname.zeros ∧
      Field.isMissing zeroBody "address" = false ∧
      Field.bytesIn zeroBody "address" = .ok Field.address.zeros ∧
      blankWorld.tables.registered "ann" = false ∧
      blankWorld.tables.bound Field.nickname.zeros = false ∧
      Delivers (.obj zeroBody) ended.1
        (AddressRecord.shown (.str "ann") true (List.replicate 21 0) (List.replicate 32 0)) ∧
      Delivers (.obj zeroLookup) ((identityGet.invoke (.obj zeroLookup) .null).run
        { blankWorld with tables := ended.2.tables }).1
          (AddressRecord.shown (.str "ann") true (List.replicate 21 0) (List.replicate 32 0)) := by
  have hw : blankWorld.IsHosting :=
    ⟨⟨rfl, rfl, by decide⟩, List.forall_mem_nil _, ⟨_, _, rfl⟩⟩
  have hann : Identity.IsCaller "ann" := ⟨rfl, rfl⟩
  have hbob : Identity.IsCaller "bob" := ⟨rfl, rfl⟩
  have hbrings : Request.Brings "ann" zeroBody (.obj zeroBody) := .direct rfl rfl
  have hspells : Field.Spells zeroBody Field.nickname.zeros := Field.spells_encodeHex rfl rfl
  have hasks : Request.Brings "bob" zeroLookup (.obj zeroLookup) := .direct rfl rfl
  have hlookup : Field.Spells zeroLookup Field.nickname.zeros :=
    ⟨" 0X00", List.cons_ne_nil _ _, rfl, rfl⟩
  have hgiven : Field.isMissing zeroBody "address" = false := rfl
  have haddress : Field.bytesIn zeroBody "address" = .ok Field.address.zeros := rfl
  obtain ⟨hclaimed, hfound⟩ :=
    invoke_claims (a := .blank "ann") hw .start hann hbrings hspells hgiven haddress rfl rfl .null
  -- how the claim ended is not to be computed
  generalize (identityRegister.invoke (.obj zeroBody) .null).run blankWorld = ended at *
  refine ⟨hw, .start, hann, hbrings, hspells, hgiven, haddress, rfl, rfl, hclaimed, ?_⟩
  exact hfound { blankWorld with tables := ended.2.tables } .refl (hw.withTables _) .null hbob
    hasks hlookup

end Function

end Rendezvous
