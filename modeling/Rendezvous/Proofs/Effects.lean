/-
  What the functions do to the tables.

  * `Function.effects`: the effect of each function that was carried out;
  * `Tables.Sound`: tables with registrations and contacts and nothing else; `effects_sound`: no
    effect spoils them;
  * `Function.Carries`: a function has its effect, or spares the tables; `effects_carries`: all of
    them do.
-/
import Rendezvous.Operation.All
import Rendezvous.Proofs.Book
import Rendezvous.Proofs.Enrolling
import Rendezvous.Proofs.Sending

namespace Rendezvous

/-! ## Widths -/

namespace Field

theorem length_of_pad {width : Nat} {label : Value} {bytes padded : Bytes}
    (h : pad width label bytes = .ok padded) : padded.length = width := by
  obtain ⟨hle, rfl⟩ := pad_eq_ok_iff.1 h
  exact Bytes.length_fill (by omega)

theorem length_of_decodeHex {width : Nat} {label value : Value} {bytes : Bytes}
    (h : decodeHex width label value = .ok bytes) : bytes.length = width := by
  obtain ⟨read, -, hpad⟩ := Except.bind_eq_ok.1 h
  exact length_of_pad hpad

/-- The bytes of a field that is written in hexadecimal have its width. -/
theorem length_of_bytesIn {body : Object} {name : Text} {field : Field} {bytes : Bytes}
    (hn : name ≠ "nickname") (hf : wireFields.lookup name = some field)
    (h : bytesIn body name = .ok bytes) : bytes.length = field.width := by
  rw [bytesIn, if_neg hn, hf] at h
  exact length_of_decodeHex h

theorem length_of_nickname {body : Object} {bytes : Bytes}
    (h : bytesIn body "nickname" = .ok bytes) : bytes.length = Field.nickname.width := by
  rw [bytesIn, if_pos rfl, nicknameIn] at h
  split at h
  · exact length_of_decodeHex h
  · obtain ⟨read, -, hpad⟩ := Except.bind_eq_ok.1 h
    exact length_of_pad hpad

end Field

/-! ## Effects -/

/-- Registrations are not concerned with contacts. -/
theorem Tables.Paired.of_same {t t' : Tables} (h : t.Paired) (hi : t'.identities = t.identities)
    (hn : t'.nicknames = t.nicknames) : t'.Paired := by
  have hkept : t.Kept t' := ⟨fun _ _ hitem => hi ▸ hitem, fun _ _ hitem => hn ▸ hitem⟩
  refine ⟨fun key item hitem => ?_, fun key item hitem => ?_⟩
  · obtain ⟨a, now, hkey, ha⟩ := h.ofRecord key item (hi ▸ hitem)
    exact ⟨a, now, hkey, hkept.holds ha⟩
  · obtain ⟨a, now, hkey, ha⟩ := h.ofBinding key item (hn ▸ hitem)
    exact ⟨a, now, hkey, hkept.holds ha⟩

/-- Registrations and contacts, and nothing else. -/
structure Tables.Sound (t : Tables) : Prop where
  paired : t.Paired
  filed : t.Filed

namespace Function

/-- What is done to the tables for a request. -/
abbrev Effect := Request → Tables → Tables → Prop

/-- Nothing. -/
def keeps : Effect := fun _ t t' => t' = t

/-- The record of the caller and its binding are added; neither key was taken. -/
def enrolls : Effect := fun request t t' => ∃ (a : Application) (now : Instant),
  a.caller = request.caller ∧ Field.bytesIn request.body "nickname" = .ok a.nickname ∧
    Field.bytesIn request.body "address" = .ok a.address ∧ now.IsDated ∧
    t.admits a.identityKey a.nicknameKey = true ∧ t' = t.enroll a now

/-- The item of one contact of the caller is put, under the digest of its address. -/
def files : Effect := fun request t t' => ∃ (c : Contact) (now : Instant),
  c.owner = request.caller ∧ Field.bytesIn request.body "addr" = .ok c.address ∧
    Field.bytesIn request.body "name" = .ok c.name ∧ now.IsDated ∧ t' = t.file c now

/-- At most the item under the digest of one address is taken from the caller's contacts. -/
def unfiles : Effect := fun request t t' => ∃ address : Bytes,
  Field.bytesIn request.body "addr" = .ok address ∧ t' = t.unfile request.caller address

/-- The functions with their effects. -/
def effects : List (Function × Effect) :=
  [(chatAnswer, keeps), (chatOffer, keeps), (contactGet, keeps), (contactRemove, unfiles),
   (contactUpsert, files), (identityGet, keeps), (identityRegister, enrolls)]

/-- Every function has an effect. -/
theorem effects_functions : effects.map (·.1) = all := rfl

variable {request : Request} {t t' : Tables}

theorem keeps_sound (h : keeps request t t') (ht : t.Sound) : t'.Sound := h ▸ ht

theorem enrolls_sound (h : enrolls request t t') (ht : t.Sound) : t'.Sound := by
  obtain ⟨a, now, -, -, -, hd, hadmits, rfl⟩ := h
  exact ⟨ht.paired.enroll hd hadmits, ht.filed.nodup, ht.filed.ofItem⟩

theorem files_sound (h : files request t t') (ht : t.Sound) : t'.Sound := by
  obtain ⟨c, now, -, -, -, hd, rfl⟩ := h
  exact ⟨ht.paired.of_same rfl rfl, ht.filed.file c hd⟩

theorem unfiles_sound (h : unfiles request t t') (ht : t.Sound) : t'.Sound := by
  obtain ⟨address, -, rfl⟩ := h
  exact ⟨ht.paired.of_same rfl rfl, ht.filed.unfile _ _⟩

/-- No effect spoils the tables. -/
theorem effects_sound {f : Function} {effect : Effect} (hf : (f, effect) ∈ effects)
    (h : effect request t t') (ht : t.Sound) : t'.Sound := by
  simp only [effects, List.mem_cons, Prod.mk.injEq, List.not_mem_nil, or_false] at hf
  rcases hf with ⟨-, rfl⟩ | ⟨-, rfl⟩ | ⟨-, rfl⟩ | ⟨-, rfl⟩ | ⟨-, rfl⟩ | ⟨-, rfl⟩ | ⟨-, rfl⟩
  exacts [keeps_sound h ht, keeps_sound h ht, keeps_sound h ht, unfiles_sound h ht,
    files_sound h ht, keeps_sound h ht, enrolls_sound h ht]

/-! ## Functions -/

variable {P : Troubles} {s : Scene}

/-- How a function ends: with the response to a request that was carried out, and then it has had
    its effect, or by a failure that spares the tables. -/
def Carries (P : Troubles) (excuse : Prop) (f : Function) (effect : Effect) (s : Scene) : Prop :=
  ∀ request, (f.run request).Ensures (Scene.troubled P)
    (s.Does excuse fun response t => Response.succeeded response = true ∧
      effect request s.tables t) s

/-- The response to a request that was carried out. -/
theorem ensures_success {function : Text} {operation : Operation} {data metadata : Object}
    {excuse : Prop} {R : Tables → Prop} {s' : Scene} (h : R s'.tables) :
    (success function operation data metadata).Ensures (Scene.troubled P)
      (s.Does excuse fun response t => Response.succeeded response = true ∧ R t) s' :=
  Scene.ensures_now fun _ _ _ h1 => ⟨rfl, h1.tables ▸ h⟩

open Scene

theorem chatOffer_carries (hP : P.AreRemote) : Carries P False chatOffer keeps s := by
  intro request
  simp only [chatOffer, Act.bind_eq, Act.liftM_eq]
  refine does_ofExcept fun welcome _ => does_ofExcept fun payload _ => ?_
  refine does_ofExcept fun recipient _ => does_service fun n service s₁ _ h1 => ?_
  refine does_ofExcept fun channel _ => ?_
  refine does_bind (channel.offer_does hP _ _ _ _) fun signal s₂ h2 => ?_
  exact ensures_success (R := keeps request s.tables) (h2.trans h1.tables)

theorem chatAnswer_carries (hP : P.AreRemote) : Carries P False chatAnswer keeps s := by
  intro request
  simp only [chatAnswer, Act.bind_eq, Act.liftM_eq]
  refine does_ofExcept fun payload _ => does_ofExcept fun recipient _ => ?_
  refine does_service fun n service s₁ _ h1 => does_ofExcept fun channel _ => ?_
  refine does_bind (channel.answer_does hP _ _ _) fun signal s₂ h2 => ?_
  exact ensures_success (R := keeps request s.tables) (h2.trans h1.tables)

theorem contactUpsert_carries : Carries P False contactUpsert files s := by
  intro request
  simp only [contactUpsert, Act.bind_eq, Act.liftM_eq]
  refine does_ofExcept fun name hname => does_ofExcept fun address haddress => ?_
  refine does_service fun n service s₁ _ h1 => does_ofExcept fun book _ => ?_
  have hn : name.length = Field.contactName.width :=
    Field.length_of_bytesIn (by decide) rfl hname
  have ha : address.length = Field.contactAddress.width :=
    Field.length_of_bytesIn (by decide) rfl haddress
  refine does_ends rfl (book.upsert_ends ⟨⟨request.caller, address, ha⟩, name, hn⟩) ?_
  rintro record s₂ ⟨-, now, hd, h2⟩
  rw [h1.tables] at h2
  exact ensures_success (R := files request s.tables) ⟨_, now, rfl, haddress, hname, hd, h2⟩

theorem contactRemove_carries : Carries P False contactRemove unfiles s := by
  intro request
  simp only [contactRemove, Act.bind_eq, Act.liftM_eq]
  refine does_ofExcept fun address haddress => ?_
  refine does_service fun n service s₁ _ h1 => does_ofExcept fun book _ => ?_
  refine does_ends rfl (book.remove_ends request.caller address) fun _ s₂ h2 => ?_
  rw [h1.tables] at h2
  exact ensures_success (R := unfiles request s.tables) ⟨address, haddress, h2⟩

theorem contactGet_carries (hP : P.AreRemote) (h : s.tables.Sound) :
    Carries P False contactGet keeps s := by
  intro request
  simp only [contactGet, Act.bind_eq, Act.liftM_eq]
  refine does_service fun n service s₁ _ h1 => ?_
  have hfiled : s₁.tables.Filed := h1.tables ▸ h.filed
  split
  · refine does_ofExcept fun address haddress => does_ofExcept fun book _ => ?_
    refine does_ends rfl (book.get_ends hfiled hP.areTold request.caller address) ?_
    rintro record s₂ ⟨-, h2⟩
    refine does_ends h2 (book.contains_ends (h2 ▸ hfiled) hP.areTold request.caller address) ?_
    rintro present s₃ ⟨-, h3⟩
    exact ensures_success (R := keeps request s.tables) (h3.trans (h2.trans h1.tables))
  · refine does_ofExcept fun book _ => ?_
    refine does_ends rfl (book.list_ends hfiled request.caller) ?_
    rintro contacts s₂ ⟨-, h2⟩
    exact ensures_success (R := keeps request s.tables) (h2.trans h1.tables)

theorem asRegistry_not_blames {service : Service} {e : Failure}
    (h : service.asRegistry = .error e) : ¬e.Blames := by
  cases service <;> cases h <;> exact id

/-- The wanted identity is a text, or null where nobody has the nickname; a request that names none
    is refused before any call. -/
theorem wantedIdentity_does (hP : P.AreRemote) (h : s.tables.Sound) (service : Service)
    (request : Request) : (wantedIdentity service request).Ensures (troubled P)
      (s.Does False fun wanted t => (wanted.1 = .null ∨ ∃ identity, wanted.1 = .str identity) ∧
        t = s.tables) s := by
  unfold wantedIdentity
  simp only [Act.bind_eq, Act.liftM_eq, Act.pure_eq]
  split
  · refine does_ofExcept fun nickname _ => does_ofExcept fun registry _ => ?_
    refine does_ends rfl (registry.resolveNickname_ends hP.areTold h.paired.legible nickname) ?_
    rintro owner s₁ ⟨rfl, h1⟩
    rcases h.paired.legible.owner nickname with ⟨-, howner⟩ | ⟨-, identity, howner⟩
    · exact ⟨Or.inl howner, h1⟩
    · exact ⟨Or.inr ⟨identity, howner⟩, h1⟩
  · split
    · exact does_ofExcept fun identity _ => ⟨Or.inr ⟨identity, rfl⟩, rfl⟩
    · exact ⟨Or.inr ⟨_, rfl⟩, rfl⟩

theorem recordOf_clears (hP : P.AreRemote) (h : s.tables.Sound) (service : Service)
    {identity : Value} (hi : identity = .null ∨ ∃ t, identity = .str t) :
    (recordOf service identity).Ensures (troubled P) (s.Clears fun _ => True) s := by
  unfold recordOf
  simp only [Act.bind_eq, Act.liftM_eq, Act.pure_eq]
  split
  · obtain rfl | ⟨t, rfl⟩ := hi
    · rename_i htruthy; cases htruthy
    · refine clears_ofExcept rfl (fun _ => asRegistry_not_blames) fun registry _ => ?_
      exact (registry.findRecord_ends hP.areTold h.paired t).mono fun x s₁ hx =>
        (hx.mono fun _ _ ha => ⟨trivial, ha.2⟩).clears
  · exact ⟨rfl, trivial⟩

theorem identityGet_carries (hP : P.AreRemote) (h : s.tables.Sound) :
    Carries P False identityGet keeps s := by
  intro request
  simp only [identityGet, Act.bind_eq]
  refine does_service fun n service s₁ _ h1 => ?_
  have hs₁ : s₁.tables.Sound := h1.tables ▸ h
  refine does_bind (wantedIdentity_does hP hs₁ service request) ?_
  rintro ⟨identity, lookup⟩ s₂ ⟨hi, h2⟩
  refine does_clears h2 (recordOf_clears hP (h2 ▸ hs₁) service hi) fun found s₃ _ h3 => ?_
  exact ensures_success (R := keeps request s.tables) (h3.trans h1.tables)

/-- The excuse of a registration: a refusal befell it that the registry's table library cannot
    word. -/
def Garbles (P : Troubles) (container : Container) : Prop :=
  ∃ n registry, (container.resolve (.str "identity_registry")).1 = .ok (n, .registry registry) ∧
    Registry.Garbled P registry.site.tables

theorem identityRegister_carries (hP : P.AreRemote) (h : s.tables.Sound) :
    Carries P (Garbles P s.world.container) identityRegister enrolls s := by
  intro request
  simp only [identityRegister, Act.bind_eq, Act.liftM_eq, Act.fail_bind]
  split
  · exact (Calm.refl s).spares _
  · refine does_ofExcept fun nickname hnickname => does_ofExcept fun address haddress => ?_
    refine does_service fun n service s₁ hservice h1 => does_ofExcept fun registry hregistry => ?_
    have hn := Field.length_of_nickname hnickname
    have ha : address.length = Field.address.width :=
      Field.length_of_bytesIn (by decide) rfl haddress
    have hpaired : s₁.tables.Paired := h1.tables ▸ h.paired
    have hexcuse : Registry.Garbled P registry.site.tables → Garbles P s.world.container := by
      cases service with
      | registry r => cases hregistry; exact fun hg => ⟨n, registry, hservice, hg⟩
      | _ => cases hregistry
    have hregister := registry.register_does (a := ⟨request.caller, nickname, address, hn, ha⟩) hP
      hpaired
    refine does_bind (hregister.mono fun x s₂ hx => hx.mono hexcuse fun _ _ => id) ?_
    rintro record s₂ ⟨-, hadmits, now, hd, h2⟩
    rw [h1.tables] at hadmits h2
    exact ensures_success (R := enrolls request s.tables)
      ⟨_, now, rfl, hnickname, haddress, hd, hadmits, h2⟩

/-- Every function has its effect, or its failure spares the tables; only a registration that the
    table library garbles may blame the request after a call. -/
theorem effects_carries (hP : P.AreRemote) (h : s.tables.Sound) {f : Function} {effect : Effect}
    (hf : (f, effect) ∈ effects) :
    Carries P (f = identityRegister ∧ Garbles P s.world.container) f effect s := by
  have hnever {f : Function} {effect : Effect} (hc : Carries P False f effect s) :
      Carries P (f = identityRegister ∧ Garbles P s.world.container) f effect s := fun request =>
    (hc request).mono fun x s₁ hx => hx.mono False.elim fun _ _ => id
  simp only [effects, List.mem_cons, Prod.mk.injEq, List.not_mem_nil, or_false] at hf
  rcases hf with ⟨rfl, rfl⟩ | ⟨rfl, rfl⟩ | ⟨rfl, rfl⟩ | ⟨rfl, rfl⟩ | ⟨rfl, rfl⟩ | ⟨rfl, rfl⟩ |
    ⟨rfl, rfl⟩
  · exact hnever (chatAnswer_carries hP)
  · exact hnever (chatOffer_carries hP)
  · exact hnever (contactGet_carries hP h)
  · exact hnever contactRemove_carries
  · exact hnever contactUpsert_carries
  · exact hnever (identityGet_carries hP h)
  · exact fun request => (identityRegister_carries hP h request).mono fun x s₁ hx =>
      hx.mono (fun hg => ⟨rfl, hg⟩) fun _ _ => id

end Function

end Rendezvous
