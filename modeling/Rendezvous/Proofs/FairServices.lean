/-
  What services make of the replies to their calls.

  Whatever the store and the event bus reply, a service is fair: it tells its failures under codes of
  their own, and blames the request just where it was led to by a reply.

  * `Registry.register_fair`: a registration does so where its transaction is mistold;
    `Registry.findRecord_weighs`: a look-up, where the record cannot be decoded;
  * `ContactBook.get_weighs`, `ContactBook.contains_weighs`: so does reading a contact; other calls
    of the book never do;
  * `Channel.relay_fair`: sending a signal does so where the bus refuses it as unusable.
-/
import Rendezvous.Proofs.Fairness

namespace Rendezvous

open Passage

/-! ## The registry -/

namespace Registry
variable (r : Registry) {p : Passage} {trap : Exchange → Prop}

theorem findItem_seeks (identity : Value) : (r.findItem identity).Ensures foreign
    (fun x p' => ∃ reply, Seeks IdentityItem.createdAt (fun item => .ok (some item)) r.site.tables p
      (.store (.getIdentity identity) reply) reply x p') p := by
  unfold findItem
  simp only [Act.bind_eq, Act.pure_eq]
  refine seeks_of_read (ensures_read (.getIdentity identity) fun item => item.bind (·.createdAt))
    (fun item p₁ => ?_) (fun p₁ => ?_) fun e p₁ hcause => ?_
  · exact ensures_note fun p₂ h2 => ⟨h2.calls, rfl⟩
  · exact ensures_note fun p₂ h2 => ⟨h2.calls, rfl⟩
  · split
    · rename_i heq; cases heq
    · rename_i heq; cases heq
    · exact ensures_note fun p₂ h2 => ⟨h2.calls, Or.inl rfl⟩
    · rename_i heq
      obtain rfl := Except.error.inj heq
      exact (ensures_failStorage hcause).mono fun x p₂ hx => hx.imp_right Or.inr

theorem findBinding_seeks (nickname : Bytes) : (r.findBinding nickname).Ensures foreign
    (fun x p' => ∃ reply, Seeks BindingItem.createdAt (fun item => .ok (some item)) r.site.tables p
      (.store (.getBinding (Field.storageHex nickname)) reply) reply x p') p := by
  unfold findBinding failBinding
  simp only [Act.bind_eq, Act.pure_eq]
  refine seeks_of_read (ensures_read (.getBinding (Field.storageHex nickname))
    fun item => item.bind (·.createdAt)) (fun item p₁ => ?_) (fun p₁ => ?_) fun e p₁ hcause => ?_
  · exact ensures_note fun p₂ h2 => ⟨h2.calls, rfl⟩
  · exact ensures_note fun p₂ h2 => ⟨h2.calls, rfl⟩
  · split
    · rename_i heq; cases heq
    · rename_i heq; cases heq
    · exact ensures_note fun p₂ h2 => ⟨h2.calls, Or.inl rfl⟩
    · rename_i heq
      obtain rfl := Except.error.inj heq
      exact (ensures_failStorage hcause).mono fun x p₂ hx => hx.imp_right Or.inr

/-- What is read of the item of an identity, if it has one. -/
def readRecord : Option IdentityItem → Except Failure (Option AddressRecord)
  | some item => item.toRecord.map some
  | none => .ok none

/-- A record that cannot be decoded is told as if the request were at fault. -/
theorem findRecord_weighs (identity : Value) : (r.findRecord identity).Ensures foreign
    (fun x p' => ∃ reply, Weighs r.site.tables p (.store (.getIdentity identity) reply)
      (Shows IdentityItem.createdAt (fun item => ∃ e, item.toRecord = .error e) reply) x p') p := by
  have hfind : r.findRecord identity =
      (r.findItem identity).bind fun found => .ofExcept (readRecord found) := by
    unfold findRecord
    rw [Act.bind_eq]
    congr 1
    funext found
    cases found with
    | none => rfl
    | some item =>
      dsimp only [readRecord]
      cases item.toRecord <;> rfl
  have hread (item : IdentityItem) : (∃ e, item.toRecord.map some = .error e) ↔
      ∃ e, item.toRecord = .error e := by
    cases item.toRecord <;> simp [Except.map]
  rw [hfind]
  simpa only [Except.bind, readRecord, hread] using
    weighs_of_seeks readRecord (findItem_seeks (p := p) r identity) ⟨none, rfl⟩
      fun item => item.toRecord_complains.map some

section
variable (hidentity : ∀ identity reply, ¬trap (.store (.getIdentity identity) reply))
include hidentity

theorem isRegistered_fair (identity : Value) :
    (r.isRegistered identity).Ensures foreign (Fair r.site.tables trap p) p := by
  refine (weighs_of_seeks (fun found => .ok found.isSome) (findItem_seeks r identity) ⟨false, rfl⟩
    fun item => .ok true).mono ?_
  rintro x p₁ ⟨reply, hweighs⟩
  refine hweighs.fair (iff_of_false (hidentity identity reply) ?_)
  rintro ⟨item, -, -, e, he⟩
  cases he

end

section
variable (hbinding : ∀ nickname reply, ¬trap (.store (.getBinding nickname) reply))
include hbinding

theorem resolveNickname_fair (nickname : Bytes) :
    (r.resolveNickname nickname).Ensures foreign (Fair r.site.tables trap p) p := by
  refine (weighs_of_seeks (fun found => .ok ((found.map BindingItem.identity).getD .null))
    (findBinding_seeks r nickname) ⟨.null, rfl⟩ fun item => .ok item.identity).mono ?_
  rintro x p₁ ⟨reply, hweighs⟩
  refine hweighs.fair (iff_of_false (hbinding _ reply) ?_)
  rintro ⟨item, -, -, e, he⟩
  cases he

theorem nicknameTaken_fair (nickname : Bytes) :
    (r.nicknameTaken nickname).Ensures foreign (Fair r.site.tables trap p) p := by
  unfold nicknameTaken
  refine fair_bind (resolveNickname_fair r hbinding nickname) fun owner p₁ _ => ?_
  split <;> exact fair_ok rfl _

variable (hidentity : ∀ identity reply, ¬trap (.store (.getIdentity identity) reply))
include hidentity

theorem ensureAvailable_fair (caller : Value) (nickname : Bytes) :
    (r.ensureAvailable caller nickname).Ensures foreign (Fair r.site.tables trap p) p := by
  unfold ensureAvailable
  refine fair_bind (f := fun _ => r.ensureFree caller nickname) ?_ fun _ p₁ _ => ?_
  · unfold ensureUnregistered
    refine fair_bind (isRegistered_fair r hidentity caller) fun registered p₁ _ => ?_
    split
    · exact fair_note fun p₂ _ => fair_error rfl (justifies_service rfl ⟨_, rfl⟩ (by simp))
    · exact fair_ok rfl _
  · unfold ensureFree
    refine fair_bind (nicknameTaken_fair r hbinding nickname) fun taken p₂ _ => ?_
    split
    · exact fair_note fun p₃ _ => fair_error rfl (justifies_service rfl ⟨_, rfl⟩ (by simp))
    · exact fair_ok rfl _

/-- The only way for a registration to blame the request is that its transaction fails by what the
    table library tells as an unusable value. -/
theorem register_fair (a : Application)
    (hput : ∀ record binding reply, trap (.store (.register record binding) reply) ↔
      ∃ failure reason, reply = .error failure ∧
        (StoreCall.register record binding).explain r.site.tables failure = .unusable reason) :
    (r.register (.str a.caller) a.nickname a.address).Ensures foreign
      (Fair r.site.tables trap p) p := by
  unfold register
  simp only [Act.bind_eq, Act.liftM_eq, requireCaller, Act.ofExcept_ok, Act.done_bind,
    Act.failStorage_bind, Act.fail_bind]
  refine fair_bind (ensureAvailable_fair r hbinding hidentity _ _) fun _ p₁ _ => ?_
  refine ensures_now fun p₂ h2 => ?_
  refine Act.Ensures.mono ?_ fun x p' => fair_of_calls h2.calls
  refine (ensures_store r.site _).attempt_bind ?_
  rintro x p₃ ⟨reply, hforeign, h3, rfl⟩
  cases reply with
  | ok u =>
    refine ensures_note fun p₄ h4 => Act.ensures_ofExcept.2 ?_
    have hrecord := a.toRecord_item p₁.world.clock
    rw [Application.item] at hrecord
    rw [hrecord]
    refine fair_single (h4.calls.trans h3) ?_
    rw [hput]
    rintro ⟨failure, reason, h, -⟩
    cases h
  | error failure =>
    have htrap := hput (IdentityItem.make p₁.world.clock (.str a.caller) a.nickname a.address)
      (.make p₁.world.clock (.str a.caller) a.nickname) (.error failure)
    simp only [Except.error.injEq, exists_and_left, exists_eq_left'] at htrap
    split
    · rename_i heq; cases heq
    · -- the tables are asked again, and the failure of the transaction is reported
      rename_i message heq
      have htold := Except.error.inj heq
      have hno : ¬∃ reason, Failure.table .transactWrite message = .unusable reason := by
        rintro ⟨reason, hreason⟩
        cases hreason
      rw [htold] at htrap
      refine fair_of_made h3 (List.forall_mem_singleton.2 (mt htrap.1 hno)) ?_
      refine fair_bind (ensureAvailable_fair r hbinding hidentity _ _) fun _ p₄ h4 => fair_failStorage ?_
      exact Or.inl ⟨_, failure, h4 _ (by rw [h3]; simp), htold.symm⟩
    · -- whatever is no failed transaction gets out of the registry as it is
      rename_i failure' _ heq
      have htold := Except.error.inj heq
      have hforeign : failure'.IsForeign :=
        htold ▸ StoreCall.isForeign_explain _ _ (hforeign failure rfl)
      rw [htold] at htrap
      refine ⟨[_], h3, justifies_foreign hforeign ?_⟩
      rw [blames_iff_of_isForeign hforeign, ← htrap]
      simp only [List.mem_singleton, exists_eq_left]

end

end Registry

/-! ## Contact books -/

/-- What is read of an item at an address: nothing, if it is a contact at another address. -/
def ContactItem.readAt (address : Bytes) (item : ContactItem) : Except Failure ContactRecord := do
  if (← item.addressBytes) = address then item.toRecord else return ContactRecord.empty

namespace ContactBook
variable (b : ContactBook) {p : Passage}

/-- The item, if it is a contact at the address. -/
def takeAt (address : Bytes) (item : ContactItem) : Except Failure (Option ContactItem) :=
  item.addressBytes.map fun found => if found = address then some item else none

theorem findItem_seeks (owner : Value) (address : Bytes) : (b.findItem owner address).Ensures foreign
    (fun x p' => ∃ reply, Seeks ContactItem.updatedAt (takeAt address) b.site.tables p
      (.store (.getContact owner (Field.addressDigest address)) reply) reply x p') p := by
  unfold findItem failContact
  simp only [Act.bind_eq, Act.liftM_eq, Act.pure_eq]
  refine seeks_of_read (ensures_read (.getContact owner (Field.addressDigest address))
    fun item => item.bind (·.updatedAt)) (fun item p₁ => ?_) (fun p₁ => ⟨rfl, rfl⟩)
    fun e p₁ hcause => ?_
  · dsimp only
    unfold takeAt
    cases item.addressBytes with
    | error e => exact ⟨rfl, rfl⟩
    | ok found =>
      rw [Act.ofExcept_ok, Act.done_bind]
      split
      next heq => exact ⟨rfl, by simp [Except.map, heq]⟩
      next hne => exact ensures_note fun p₂ h2 => ⟨h2.calls, by simp [Except.map, hne]⟩
  · split
    · rename_i heq; cases heq
    · rename_i heq; cases heq
    · exact ⟨rfl, Or.inl rfl⟩
    · rename_i heq
      obtain rfl := Except.error.inj heq
      exact (ensures_failStorage hcause).mono fun x p₂ hx => hx.imp_right Or.inr

/-- What is read of a contact, if there is one. -/
def readRecord : Option ContactItem → Except Failure ContactRecord
  | some item => item.toRecord
  | none => .ok ContactRecord.empty

/-- A contact that cannot be decoded is told as if the request were at fault. -/
theorem get_weighs (owner : Value) (address : Bytes) : (b.get owner address).Ensures foreign
    (fun x p' => ∃ reply, Weighs b.site.tables p
      (.store (.getContact owner (Field.addressDigest address)) reply)
      (Shows ContactItem.updatedAt (fun item => ∃ e, item.readAt address = .error e) reply) x p')
    p := by
  have hget : b.get owner address =
      (b.findItem owner address).bind fun found => .ofExcept (readRecord found) := by
    unfold get
    rw [Act.bind_eq]
    congr 1
    funext found
    cases found <;> rfl
  have hread (item : ContactItem) :
      (takeAt address item).bind readRecord = item.readAt address := by
    unfold takeAt ContactItem.readAt
    cases item.addressBytes with
    | error e => rfl
    | ok found =>
      simp only [Except.map, bind, Except.bind]
      split <;> rfl
  have hcomplains (item : ContactItem) : Complains ((takeAt address item).bind readRecord) := by
    refine (item.addressBytes_complains.map _).bind fun found => ?_
    cases found with
    | some item => exact item.toRecord_complains
    | none => exact .ok _
  rw [hget]
  simpa only [hread] using
    weighs_of_seeks readRecord (findItem_seeks (p := p) b owner address) ⟨_, rfl⟩ hcomplains

/-- Whoever asks whether a contact is there is told so, too, if its address cannot be decoded. -/
theorem contains_weighs (owner : Value) (address : Bytes) :
    (b.contains owner address).Ensures foreign (fun x p' => ∃ reply, Weighs b.site.tables p
      (.store (.getContact owner (Field.addressDigest address)) reply)
      (Shows ContactItem.updatedAt (fun item => ∃ e, item.addressBytes = .error e) reply) x p')
    p := by
  have hread (item : ContactItem) : (∃ e, (takeAt address item).bind
      (fun found => (.ok found.isSome : Except Failure Bool)) = .error e) ↔
        ∃ e, item.addressBytes = .error e := by
    unfold takeAt
    cases item.addressBytes <;> simp [Except.map, Except.bind]
  have hcontains : b.contains owner address =
      (b.findItem owner address).bind fun found => .ofExcept (.ok found.isSome) := rfl
  rw [hcontains]
  simpa only [hread] using weighs_of_seeks (fun found => .ok found.isSome)
    (findItem_seeks (p := p) b owner address) ⟨false, rfl⟩
    fun item => (item.addressBytes_complains.map _).bind fun found => .ok _

/-- A contact that cannot be put is reported as a failure of the store. -/
theorem upsert_weighs (c : Contact) : (b.upsert (.str c.owner) c.address c.name).Ensures foreign
    (fun x p' => ∃ reply, Weighs b.site.tables p
      (.store (.putContact (c.item p.world.clock)) reply) False x p') p := by
  unfold upsert putItem ContactItem.requireOwner logDone
  simp only [Act.bind_eq, Act.liftM_eq, Act.failStorage_bind]
  refine ensures_now fun p₁ h1 => ?_
  simp only [ContactItem.make, Act.ofExcept_ok, Act.done_bind]
  refine (ensures_store b.site (.putContact (c.item p.world.clock))).attempt_bind ?_
  rintro x p₂ ⟨reply, -, h2, rfl⟩
  rw [h1.calls] at h2
  cases reply with
  | ok u =>
    refine ensures_note fun p₃ h3 => Act.ensures_ofExcept.2 ?_
    have hrecord := c.toRecord_item p.world.clock
    rw [Contact.item, ContactItem.make] at hrecord
    rw [hrecord]
    exact ⟨_, h3.calls.trans h2, id⟩
  | error failure =>
    refine (ensures_failStorage (Or.inl ⟨_, failure, by rw [h2]; simp, rfl⟩)).mono ?_
    rintro x p₃ ⟨h3, e, rfl, he⟩
    exact ⟨_, h3.trans h2, justifies_report he⟩

theorem remove_weighs (owner : Value) (address : Bytes) :
    (b.remove owner address).Ensures foreign (fun x p' => ∃ reply, Weighs b.site.tables p
      (.store (.deleteContact owner (Field.addressDigest address)) reply) False x p') p := by
  unfold remove logDone
  simp only [Act.bind_eq, Act.failStorage_bind]
  refine (ensures_store b.site (.deleteContact owner (Field.addressDigest address))).attempt_bind ?_
  rintro x p₁ ⟨reply, -, h1, rfl⟩
  cases reply with
  | ok u => exact ensures_note fun p₂ h2 => ⟨_, h2.calls.trans h1, id⟩
  | error failure =>
    refine (ensures_failStorage (Or.inl ⟨_, failure, by rw [h1]; simp, rfl⟩)).mono ?_
    rintro x p₂ ⟨h2, e, rfl, he⟩
    exact ⟨_, h2.trans h1, justifies_report he⟩

/-- A list with a contact that cannot be decoded is reported as a failure of the store, too. -/
theorem list_weighs (owner : Value) : (b.list owner).Ensures foreign (fun x p' => ∃ reply,
    Weighs b.site.tables p (.store (.queryContacts owner) reply) False x p') p := by
  unfold list logDone
  simp only [Act.bind_eq, Act.pure_eq]
  have hentries : ((Act.store b.site (.queryContacts owner)).bind fun items =>
      Act.ofExcept (items.mapM ContactItem.toEntry)).Ensures foreign (fun x p' => ∃ reply,
        p'.calls = p.calls ++ [.store (.queryContacts owner) reply] ∧
          ∀ e, x = .error e → p'.Suffers b.site.tables e) p := by
    refine (ensures_store b.site (.queryContacts owner)).bind ?_ ?_
    · rintro items p₁ ⟨reply, -, h1, -⟩
      refine Act.ensures_ofExcept.2 ⟨reply, h1, fun e he => Or.inr ?_⟩
      exact FailsBy.mapM ContactItem.toEntry_complains items e he
    · rintro e p₁ ⟨reply, -, h1, he⟩
      cases reply with
      | ok items => cases he
      | error failure =>
        refine ⟨_, h1, fun e' he' => Or.inl ⟨.queryContacts owner, failure, ?_, ?_⟩⟩
        · rw [h1]; simp
        · exact (Except.error.inj he').symm.trans (Except.error.inj he)
  refine hentries.attempt_bind ?_
  rintro x p₁ ⟨reply, h1, hsuffers⟩
  cases x with
  | ok contacts => exact ensures_note fun p₂ h2 => ⟨reply, h2.calls.trans h1, id⟩
  | error failure =>
    refine (ensures_failStorage (hsuffers failure rfl)).mono ?_
    rintro x p₂ ⟨h2, e, rfl, he⟩
    exact ⟨reply, h2.trans h1, justifies_report he⟩

end ContactBook

/-! ## The channel -/

/-- A reply of the event bus by which whoever sends a signal is led to blame the request: it refuses
    the entry as an unusable value. -/
def Exchange.IsReproach : Exchange → Prop
  | .event _ (.error (.unusable _)) => True
  | _ => False

namespace Transport
variable {p : Passage} {names : TableNames} {bus source : Value} {signal : Signal}

theorem justifies_undelivered (message : Text) (bus : Value) (s : Signal) (cause : Value) :
    p.Justifies names False (undelivered message bus s cause) :=
  justifies_service rfl ⟨_, rfl⟩ (by simp)

/-- No reply of the bus is read as a fault of the request. -/
theorem readReply_fair (reply : Value) :
    (readReply bus signal reply).Ensures foreign (Fair names Exchange.IsReproach p) p := by
  have hdefect {α : Type} {x : Except Failure α} {f : α → Act Unit}
      (hx : ∀ e, x = .error e → ∃ kind message, e = .defect kind message)
      (hf : ∀ a, (f a).Ensures foreign (Fair names Exchange.IsReproach p) p) :
      ((Act.ofExcept x).bind f).Ensures foreign (Fair names Exchange.IsReproach p) p := by
    cases x with
    | ok a => exact hf a
    | error e =>
      obtain ⟨kind, message, rfl⟩ := hx e rfl
      exact fair_error rfl (justifies_defect _ _)
  have hfields (v : Value) (e : Failure) (h : v.fields = .error e) :
      ∃ kind message, e = .defect kind message := by
    cases v <;> cases h <;> exact ⟨_, _, rfl⟩
  have hnull (name : Text) (v : Value) (e : Failure) (h : v.fieldOrNull name = .error e) :
      ∃ kind message, e = .defect kind message := by
    cases v <;> cases h <;> exact ⟨_, _, rfl⟩
  unfold readReply
  simp only [Act.bind_eq, Act.liftM_eq, Act.pure_eq]
  refine hdefect (hfields reply) fun fields => ?_
  split
  · refine hdefect (fun e he => ?_) fun entry => ?_
    · unfold firstEntry at he
      split at he <;> cases he <;> exact ⟨_, _, rfl⟩
    refine hdefect (hnull _ entry) fun code => hdefect (hnull _ entry) fun message => ?_
    exact fair_note fun p₁ _ => fair_error rfl (justifies_undelivered _ _ _ _)
  · exact fair_ok rfl _

theorem connect_ends (slot : Nat) (bus source : Value) (connected : Bool) :
    (connect slot bus source connected).Ensures foreign
      (fun x p' => p'.calls = p.calls ∧ x = .ok ()) p := by
  refine (ensures_of_poses (connect_poses Query.hasQuiet_not_isCall slot bus source connected)).and ?_
  cases connected with
  | true => rfl
  | false => exact fun _ _ _ _ _ _ _ _ _ => rfl

theorem send_fair (slot : Nat) (connected : Bool) :
    (send slot bus source connected signal).Ensures foreign
      (Fair names Exchange.IsReproach p) p := by
  unfold send
  simp only [Act.bind_eq, Act.liftM_eq]
  unfold entryOf
  split
  next detail _ =>
    rw [Act.ofExcept_ok, Act.done_bind]
    refine (connect_ends slot bus source connected).bind ?_ fun e p₁ h => by cases h.2
    rintro _ p₁ ⟨h1, -⟩ reply p₂ ⟨hw, hreply, h2⟩
    rw [h1] at h2
    have hanswer : (p₁.world.putEvent _).1 = reply := congrArg Prod.fst hreply
    have hforeign (e : Failure) (he : reply = .error e) : e.IsForeign :=
      (hw.putEvent _).2 e (hanswer.trans he)
    cases reply with
    | ok reply =>
      refine fair_of_made h2 (by simp [Query.exchange, Exchange.IsReproach]) ?_
      simp only [Act.ofExcept_ok, Act.attempt, Act.done_bind]
      refine fair_bind (readReply_fair reply) fun _ p₃ _ => ?_
      exact fun _ p₄ hr => fair_ok (rests_of_log hr).calls ()
    | error failure =>
      cases failure with
      | remote e =>
        refine fair_of_made h2 (by simp [Query.exchange, Exchange.IsReproach]) ?_
        exact fair_note fun p₃ _ => fair_error rfl (justifies_undelivered _ _ _ _)
      | service e => exact (hforeign _ rfl).elim
      | _ =>
        refine ⟨_, h2, justifies_foreign (hforeign _ rfl) ?_⟩
        simp [Query.exchange, Exchange.IsReproach, Failure.Blames]
  next => exact fair_error rfl (justifies_defect _ _)

/-- The transport that is made is on a bus. -/
theorem onBus_ends (site : Site) : (onBus site .null .null).Ensures foreign (fun x p' =>
    match x with
    | .ok transport => ∀ failure, transport ≠ .recording (some failure)
    | .error e => p'.Justifies names False e) p := by
  unfold onBus
  simp only [Act.bind_eq, Act.pure_eq, Act.fail_bind]
  intro env p₁ _
  simp only [Act.done_bind]
  split
  · exact justifies_service rfl ⟨_, rfl⟩ (by simp)
  · exact nofun

end Transport

namespace Channel
variable {p : Passage} {names : TableNames} (c : Channel)

/-- The transport of a wired channel does not fail by itself. -/
theorem transport_ends (hw : p.world.IsWired) : c.transport.Ensures foreign (fun x p' =>
    p'.calls = p.calls ∧
      match x with
      | .ok transport => ∀ failure, transport ≠ .recording (some failure)
      | .error e => p'.Justifies names False e) p := by
  refine (ensures_of_poses (c.transport_poses Query.hasQuiet_not_isCall)).and ?_
  rintro kept p₁ ⟨-, hkept, -⟩
  have hkept : p.world.transports.lookup c.slot = kept := congrArg Prod.fst hkept
  cases kept with
  | some transport =>
    obtain ⟨before, after, hlist, -⟩ := List.lookup_eq_some_iff.1 hkept
    exact hw (c.slot, transport) (by rw [hlist]; simp)
  | none =>
    refine (Transport.onBus_ends c.site).bind ?_ fun e p₂ he => he
    exact fun transport p₂ hsound _ p₃ _ => hsound

/-- The only way for a signal to blame the request is that the bus refuses it as unusable. -/
theorem relay_fair (hw : p.world.IsWired) (signal : Signal) :
    (c.relay signal).Ensures foreign (Fair names Exchange.IsReproach p) p := by
  unfold relay
  simp only [Act.bind_eq, Act.pure_eq]
  refine (c.transport_ends hw).bind ?_ fun e p₁ h => fair_error h.1 h.2
  rintro transport p₁ ⟨h1, hsound⟩
  refine Act.Ensures.mono ?_ fun x p₂ => fair_of_calls h1
  refine fair_bind (f := fun _ => _) ?_ fun _ p₂ _ => fair_note fun p₃ _ => fair_ok rfl _
  cases transport with
  | bus name source connected => exact Transport.send_fair c.slot connected
  | recording failure =>
    cases failure with
    | none => exact fun _ p₂ hr => fair_ok (by rw [hr.2.2]; exact List.append_nil _) ()
    | some failure => exact (hsound failure rfl).elim
  | undefined => exact fair_error rfl (justifies_defect _ _)

end Channel

end Rendezvous
