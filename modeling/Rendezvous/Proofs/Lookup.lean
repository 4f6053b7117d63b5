/-
  Looking a nickname up, in any course of events.

  The identity that a nickname belongs to is found in one table, and its record is read from another
  one after that.  Since the two halves of a registration are put at once, and neither is ever lost,
  what is told of them belongs together, whatever is put in between.

  * `Tables.Enlarges`: a registration is put, or none; `Function.invoke_enlarges`: so it is with
    every call of a function;
  * `Course.Hosts`: functions are served in a course of events;
  * `Course.Resolves`: how a look-up ends: nobody had the nickname, or a registration is told;
  * `Function.identityGet_resolves` and `invoke_resolves`: every look-up ends so.
-/
import Rendezvous.Proofs.Atomic
import Rendezvous.Proofs.Hosting
import Rendezvous.Proofs.Snapshot

namespace Rendezvous

open Act

/-! ## What is told -/

/-- The record that a response tells. -/
def Response.recordTold? (response : Value) : Option Value := response.at? ["data", "record"]

/-- A response to a request that was carried out tells a record. -/
structure Response.Tells (response told : Value) : Prop where
  succeeded : Response.succeeded response = true
  record : Response.recordTold? response = some told

/-- What a response tells of a field of a record. -/
theorem Response.Tells.at?_record {response told v : Value} (h : Response.Tells response told)
    {name : Text} (hv : told.at? [name] = some v) :
    response.at? ["data", "record", name] = some v := by
  have hpath := Value.at?_append ["data", "record"] [name] response
  rw [← Response.recordTold?, h.record, Option.bind_some, hv] at hpath
  exact hpath

/-- How a record is told: with its identity, whether that is registered, the nickname as text and as
    digits, and the digits of the address. -/
def AddressRecord.shown (identity : Value) (registered : Bool) (nickname address : Bytes) : Value :=
  .obj [("identity", identity), ("registered", .bool registered),
    ("nickname", .str (Field.decodeNickname nickname)),
    ("nickname_hex", .str (Field.encodeHex nickname)), ("address", .str (Field.encodeHex address))]

/-- What is told where nobody is found: a record of zeros. -/
def AddressRecord.nobody : Value := shown .null false (List.replicate 21 0) (List.replicate 32 0)

/-- What is told of a registration. -/
def Application.told (a : Application) : Value :=
  AddressRecord.shown (.str a.caller) true a.nickname a.address

/-! ## Tables that grow -/

namespace Tables

/-- What is registered is the same, or a registration is put of somebody with a name. -/
def Enlarges (t t' : Tables) : Prop :=
  (t'.identities = t.identities ∧ t'.nicknames = t.nicknames) ∨
    ∃ (a : Application) (now : Instant), a.caller ≠ [] ∧ now.IsDated ∧
      t.admits a.identityKey a.nicknameKey = true ∧ t' = t.enroll a now

variable {t t' : Tables} {a : Application} {now : Instant}

namespace Enlarges

theorem of_eq (h : t' = t) : t.Enlarges t' := Or.inl (h ▸ ⟨rfl, rfl⟩)

variable (h : t.Enlarges t')
include h

theorem paired (hp : t.Paired) : t'.Paired := by
  obtain ⟨hi, hn⟩ | ⟨a, now, -, hd, hadmits, rfl⟩ := h
  exacts [hp.of_same hi hn, hp.enroll hd hadmits]

theorem kept : t.Kept t' := by
  obtain ⟨hi, hn⟩ | ⟨a, now, -, -, hadmits, rfl⟩ := h
  exacts [⟨fun _ _ hitem => hi ▸ hitem, fun _ _ hitem => hn ▸ hitem⟩, kept_enroll hadmits]

/-- The identities of bindings hold no bytes. -/
theorem bindsPlain (ht : t.BindsPlain) : t'.BindsPlain := by
  obtain ⟨-, hn⟩ | ⟨a, now, -, -, -, rfl⟩ := h
  · rwa [Tables.BindsPlain, hn]
  · have hidentity : Json.isPlain (a.binding now).identity = true := rfl
    exact ht.putBinding hidentity

/-- Nobody registers without a name. -/
theorem unregistered_empty (hempty : t.registered [] = false) : t'.registered [] = false := by
  obtain ⟨hi, -⟩ | ⟨a, now, hcaller, -, -, rfl⟩ := h
  · rwa [registered, hi]
  · have hkey : Key.text [] ≠ a.identityKey := fun heq => hcaller (Key.text.inj heq).symm
    have hfind : (t.enroll a now).identities.find? (.text []) = t.identities.find? (.text []) :=
      Table.find?_put_of_ne hkey _ _
    rwa [registered, hfind]

end Enlarges

/-- Whoever is registered has a name, if the empty text is not registered. -/
theorem Holds.isTruthy (h : t.Holds a now)
    (ht : t.registered [] = false) : (Value.str a.caller).isTruthy = true := by
  cases hcaller : a.caller with
  | nil =>
    have hregistered := h.registered
    rw [hcaller, ht] at hregistered
    cases hregistered
  | cons c t => rfl

end Tables

/-- Whoever is authenticated has a name. -/
theorem Request.caller_ne_nil {event : Value} {request : Request}
    (h : ofEvent event = .ok request) : request.caller ≠ [] := by
  intro hcaller
  have hparts := parts_of_ofEvent h
  rw [ofEvent, hparts, hcaller] at h
  cases h

namespace Function

theorem effects_enlarges {f : Function} {effect : Effect} (hf : (f, effect) ∈ effects)
    {request : Request} {t t' : Tables} (h : effect request t t') (hcaller : request.caller ≠ []) :
    t.Enlarges t' := by
  simp only [effects, List.mem_cons, Prod.mk.injEq, List.not_mem_nil, or_false] at hf
  rcases hf with ⟨-, rfl⟩ | ⟨-, rfl⟩ | ⟨-, rfl⟩ | ⟨-, rfl⟩ | ⟨-, rfl⟩ | ⟨-, rfl⟩ | ⟨-, rfl⟩
  · exact .of_eq h
  · exact .of_eq h
  · exact .of_eq h
  · obtain ⟨address, -, rfl⟩ := h
    exact Or.inl ⟨rfl, rfl⟩
  · obtain ⟨contact, now, -, -, -, -, rfl⟩ := h
    exact Or.inl ⟨rfl, rfl⟩
  · exact .of_eq h
  · obtain ⟨a, now, ha, -, -, hd, hadmits, rfl⟩ := h
    exact Or.inr ⟨a, now, ha ▸ hcaller, hd, hadmits, rfl⟩

/-- Whatever is called, what is registered stays registered. -/
theorem invoke_enlarges {f : Function} {w : World} (hf : f ∈ all) (hw : w.IsTroubled .remote)
    (ht : w.tables.Sound) (event context : Value) :
    w.tables.Enlarges ((f.invoke event context).run w).2.tables := by
  obtain hsame | ⟨effect, request, hf, hr, he⟩ := invoke_tables hf hw ht event context
  · exact .of_eq hsame
  · exact effects_enlarges hf he (Request.caller_ne_nil (Request.ofEvent_of_accept hr))

theorem Reaches.unregistered_empty {t : Tables} (h : Reaches t) : t.registered [] = false := by
  induction h with
  | start => rfl
  | invoked event context hf hreaches hw ih =>
    exact (invoke_enlarges hf hw hreaches.sound event context).unregistered_empty ih

theorem Reaches.bindsPlain {t : Tables} (h : Reaches t) : t.BindsPlain := by
  induction h with
  | start => exact List.forall_mem_nil _
  | invoked event context hf hreaches hw ih =>
    exact (invoke_enlarges hf hw hreaches.sound event context).bindsPlain ih

end Function

/-! ## Courses of events -/

namespace Course

variable {σ : Type} {c : Course σ} {s s' : σ} {nickname : Bytes} {response : Value}

/-- Functions are served: the stopwatch is not broken, and the registry is in its place. -/
structure Hosts (c : Course σ) : Prop where
  timed : Timed c.answer c.passes
  registry : ∀ {s reply s'}, c.answer (.service (.str "identity_registry")) s reply s' →
    c.passes s s' ∧ ∃ r, reply = .ok (.registry r)

/-- How a look-up of a nickname ends: at some moment nobody had the nickname, or it is that of a
    registration; and this is what is told. -/
inductive Resolves (c : Course σ) (nickname : Bytes) (s : σ) (response : Value) (s' : σ) : Prop
  | nobody {m : σ} : c.passes s m → c.passes m s' → (c.tables m).bound nickname = false →
    Response.Tells response AddressRecord.nobody → Resolves c nickname s response s'
  | owner {a : Application} {now : Instant} {m : σ} : c.passes s m → c.passes m s' →
    a.nickname = nickname → (c.tables m).Holds a now → Response.Tells response a.told →
    Resolves c nickname s response s'

theorem Resolves.of_passes {s₀ s₁ : σ} (h : c.Resolves nickname s response s')
    (h₀ : c.passes s₀ s) (h₁ : c.passes s' s₁) : c.Resolves nickname s₀ response s₁ := by
  cases h with
  | nobody hm hm' hbound htold => exact .nobody (c.trans h₀ hm) (c.trans hm' h₁) hbound htold
  | owner hm hm' hn ha htold => exact .owner (c.trans h₀ hm) (c.trans hm' h₁) hn ha htold

end Course

namespace Function

variable {σ : Type} {c : Course σ} {s s₀ : σ} {nickname : Bytes}

/-- A record of what is plain is told. -/
theorem success_tells {identity : Value} (hi : Json.isPlain identity = true) {metadata : Object}
    (hm : Json.isPlain (.obj metadata) = true) {function : Text} {operation : Operation}
    {registered : Bool} {record : AddressRecord} :
    (success function operation
      [("record", .obj (record.toObject identity (.bool registered)))] metadata).Ensures c.answer
        (fun x s' => ∃ response, x = .ok response ∧ c.passes s s' ∧ Response.IsWritable response ∧
          Response.Tells response
            (AddressRecord.shown identity registered record.nickname record.address)) s := by
  intro now s₁ hnow
  refine ⟨_, rfl, (c.now hnow).1, Response.isWritable_success now ?_ hm rfl, rfl, rfl⟩
  exact Json.isPlain_put (by simpa [Json.isPlain_obj] using isPlain_record hi registered record) rfl

/-- An admitted request is answered with the response to it, if there is one. -/
theorem answer_accepted {A : Answering σ} {f : Function} {event : Value} {request : Request}
    {Q : Value → σ → Prop}
    (haccept : Request.accept (Request.require f.required) event = .ok request)
    (h : (f.run request).Ensures A (fun x s' => ∃ response, x = .ok response ∧ Q response s') s) :
    (f.handler.answer event).Ensures A (fun x s' => ∃ response, x = .ok response ∧ Q response s')
      s := by
  unfold Handler.answer
  simp only [bind_eq, liftM_eq, handler, haccept, ofExcept_ok, done_bind]
  refine h.attempt_bind ?_
  rintro x s₁ ⟨response, rfl, hresponse⟩
  exact ⟨response, rfl, hresponse⟩

/-- The call of a function for an admitted request delivers the response to it, if there is one and
    it can be written. -/
theorem invoke_accepted (hc : c.Hosts) {f : Function} {event : Value} {request : Request}
    {Q : Value → σ → Prop}
    (haccept : Request.accept (Request.require f.required) event = .ok request) (context : Value)
    (h : ∀ s₁, c.passes s s₁ → (f.run request).Ensures c.answer (fun x s₂ => ∃ response,
      x = .ok response ∧ Response.IsWritable response ∧ Q response s₂) s₁) :
    (f.invoke event context).Ensures c.answer (fun x s' => ∃ answer response s₂,
      x = .ok answer ∧ Response.Delivered event response answer ∧ Q response s₂ ∧
        c.passes s₂ s') s := by
  refine (invoke_timed hc.timed context fun s₁ h1 => answer_accepted haccept (h s₁ h1)).mono ?_
  rintro x s' ⟨response, s₂, hwritable, hQ, h2, hx⟩
  obtain ⟨answer, hdeliver⟩ := Handler.exists_deliver event hwritable
  exact ⟨answer, response, s₂, hx.trans hdeliver, .of_deliver hwritable hdeliver, hQ, h2⟩

section
variable (hc : c.Hosts) (hp : (c.tables s).Paired)
  (hempty : ∀ s', c.passes s s' → (c.tables s').registered [] = false)
include hc hp hempty

/-- A look-up of a nickname tells of nobody, or of one registration. -/
theorem identityGet_resolves {request : Request} (hasked : Field.hasNickname request.body = true)
    (hn : Field.bytesIn request.body "nickname" = .ok nickname) :
    (identityGet.run request).Ensures c.answer (fun x s' => ∃ response, x = .ok response ∧
      Response.IsWritable response ∧ c.Resolves nickname s response s') s := by
  simp only [identityGet, wantedIdentity, recordOf, bind_eq, liftM_eq, pure_eq, hasked, if_true, hn,
    ofExcept_ok, done_bind]
  intro reply s₁ hr
  obtain ⟨h1, r, rfl⟩ := hc.registry hr
  simp only [ofExcept_ok, done_bind, Service.asRegistry, bind_assoc]
  refine (r.resolveNickname_shows (c.paired h1 hp) nickname).bind ?_ ?_
  · rintro owner s₂ ⟨m, h2, h3, howner⟩
    obtain rfl := Except.ok.inj howner
    have hm := c.trans h1 h2
    cases hitem : (c.tables m).nicknames.find? (Field.storageHex nickname) with
    | none =>
      have hbound : (c.tables m).bound nickname = false := by rw [Tables.bound, hitem]; rfl
      have hnull : (c.tables m).owner nickname = .null := by rw [Tables.owner, hitem]; rfl
      rw [hnull]
      refine (success_tells rfl rfl).mono ?_
      rintro x s₃ ⟨response, rfl, h4, hwritable, htells⟩
      exact ⟨response, rfl, hwritable, .nobody hm (c.trans h3 h4) hbound htells⟩
    | some item =>
      obtain ⟨a, now, hkey, -, ha⟩ := (c.paired hm hp).of_binding hitem
      obtain rfl : nickname = a.nickname := Hex.encode_injective hkey
      rw [ha.owner, if_pos (ha.isTruthy (hempty m hm))]
      -- whatever has been put since, the record is still there
      refine (r.findRecord_shows (c.paired (c.trans hm h3) hp) a.caller).bind ?_ ?_
      · rintro found s₃ ⟨m', h4, h5, hfound⟩
        obtain rfl := Except.ok.inj hfound
        rw [((c.kept (c.trans h3 h4)).holds ha).record?]
        refine (success_tells rfl rfl).mono ?_
        rintro x s₄ ⟨response, rfl, h6, hwritable, htells⟩
        have hafter := c.trans h3 (c.trans h4 (c.trans h5 h6))
        exact ⟨response, rfl, hwritable, .owner hm hafter rfl ha htells⟩
      · rintro e s₃ ⟨m', -, -, he⟩
        cases he
  · rintro e s₂ ⟨m, -, -, he⟩
    cases he

/-- The answer to a look-up of a nickname delivers what is told. -/
theorem invoke_resolves {event : Value} {request : Request}
    (haccept : Request.accept (Request.require identityGet.required) event = .ok request)
    (hasked : Field.hasNickname request.body = true)
    (hn : Field.bytesIn request.body "nickname" = .ok nickname) (context : Value) :
    (identityGet.invoke event context).Ensures c.answer (fun x s' => ∃ answer response,
      x = .ok answer ∧ Response.Delivered event response answer ∧
        c.Resolves nickname s response s') s := by
  refine (invoke_accepted hc haccept context (Q := c.Resolves nickname s) fun s₁ h1 => ?_).mono ?_
  · refine (identityGet_resolves hc (c.paired h1 hp) (fun s' h' => hempty s' (c.trans h1 h'))
      hasked hn).mono ?_
    rintro x s₂ ⟨response, rfl, hwritable, hresolves⟩
    exact ⟨response, rfl, hwritable, hresolves.of_passes h1 (c.refl s₂)⟩
  · rintro x s₃ ⟨answer, response, s₂, hx, hdelivered, hresolves, h3⟩
    exact ⟨answer, response, hx, hdelivered, hresolves.of_passes (c.refl s) h3⟩

end

end Function

end Rendezvous
