/-
  Services in a world without bytes.

  Nothing that a service makes of a request holds bytes: its messages are written by the service
  itself, and it repeats of its arguments only who they are about.

  * `Field.bytesIn_plainly`: the parts of a body are read, or refused plainly;
  * `Registry.register_plains`, `ContactBook.upsert_plains`, `Channel.relay_plains` and the like:
    wherever the replies are plain, the services end plainly.
-/
import Rendezvous.Operation.All
import Rendezvous.Proofs.Plain

namespace Rendezvous

open Act

/-! ## Values and fields -/

namespace Field

theorem pad_plainly (width : Int) {label : Value} (h : Json.isPlain label = true) (bytes : Bytes) :
    FailsPlainly (pad width label bytes) := by
  unfold pad
  split
  · exact Failure.isPlain_atField _ h
  · trivial

theorem wireBytes_plainly {label : Value} (h : Json.isPlain label = true) (v : Value) :
    FailsPlainly (wireBytes label v) := by
  unfold wireBytes
  split
  · trivial
  · dsimp only
    split
    · exact Failure.isPlain_atField _ h
    · split
      · trivial
      · exact Failure.isPlain_atField _ h
  · exact Failure.isPlain_atField _ h

theorem nicknameBytes_plainly {label : Value} (h : Json.isPlain label = true) (v : Value) :
    FailsPlainly (nicknameBytes label v) := by
  unfold nicknameBytes
  split
  · split <;> trivial
  · trivial
  · exact Failure.isPlain_atField _ h

theorem decodeHex_plainly (width : Int) {label : Value} (h : Json.isPlain label = true)
    (v : Value) : FailsPlainly (decodeHex width label v) :=
  (wireBytes_plainly h v).bind fun bytes _ => pad_plainly width h bytes

theorem bytesIn_plainly (body : Object) (name : Text) : FailsPlainly (bytesIn body name) := by
  unfold bytesIn
  split
  · unfold nicknameIn
    dsimp only
    split
    · exact decodeHex_plainly _ rfl _
    · exact (nicknameBytes_plainly rfl _).bind fun bytes _ => pad_plainly _ rfl bytes
  · split
    · exact decodeHex_plainly _ rfl _
    · trivial

theorem storedBytes_plainly (stored : Value) : FailsPlainly (storedBytes stored) := by
  unfold storedBytes
  split
  · trivial
  · split
    · rename_i t _
      cases Hex.decode t <;> trivial
    · rename_i b _
      cases Hex.decodePairs (b.map fun x => CodePoint.ofNat x.toNat) <;> trivial
    · trivial

theorem fromStorageHex_plainly (width : Int) (stored : Value) :
    FailsPlainly (fromStorageHex width stored) :=
  (storedBytes_plainly stored).bind fun bytes _ => pad_plainly width rfl bytes

end Field

theorem Stamp.check_plainly (stamp : Option Text) : FailsPlainly (Stamp.check stamp) := by
  unfold check
  split
  · trivial
  · split <;> trivial

/-- Something is read with its stamp. -/
theorem Act.plains_read (site : Site) (call : StoreCall) (hq : (Query.store call).IsPlain)
    (stamp : call.Result → Option Text) :
    ((store site call).bind fun item => (ofExcept (Stamp.check (stamp item))).bind fun _ =>
      .done item).Plains (Query.PlainResult call) :=
  (plains_store site call hq).bind fun _ hitem =>
    (plains_ofExcept (Stamp.check_plainly _)).bind fun _ _ => hitem

/-! ## Services -/

theorem IdentityItem.toRecord_plainly (item : IdentityItem) :
    FailsPlainly item.toRecord :=
  (Field.fromStorageHex_plainly _ _).bind fun _ _ =>
    (Field.fromStorageHex_plainly _ _).bind fun _ _ => trivial

namespace Registry
variable (r : Registry)

theorem findItem_plains (identity : Value) : (r.findItem identity).Plains fun _ => True := by
  unfold findItem
  simp only [bind_eq, pure_eq]
  refine (plains_read r.site (.getIdentity identity) trivial
    (fun item => item.bind (·.createdAt))).attempt_bind fun x hx => ?_
  split
  · exact (closes_note _ _ _).bind fun _ _ => trivial
  · exact (closes_note _ _ _).bind fun _ _ => trivial
  · exact (closes_note _ _ _).bind fun _ _ => trivial
  · exact plains_failStorage _ _ _

theorem findBinding_plains (nickname : Bytes) : (r.findBinding nickname).Plains
    (Query.PlainResult (.getBinding (Field.storageHex nickname))) := by
  unfold findBinding
  simp only [bind_eq, pure_eq]
  refine (plains_read r.site (.getBinding (Field.storageHex nickname)) trivial
    (fun item => item.bind (·.createdAt))).attempt_bind fun x hx => ?_
  split
  · exact (closes_note _ _ _).bind fun _ _ => hx
  · exact (closes_note _ _ _).bind fun _ _ _ h => by cases h
  · exact (closes_note _ _ _).bind fun _ _ _ h => by cases h
  · exact plains_failStorage _ _ _

theorem findRecord_plains (identity : Value) : (r.findRecord identity).Plains fun _ => True := by
  refine (r.findItem_plains identity).bind fun found _ => ?_
  cases found with
  | none => trivial
  | some item => exact (plains_ofExcept item.toRecord_plainly).bind fun _ _ => trivial

theorem resolveNickname_plains (nickname : Bytes) :
    (r.resolveNickname nickname).Plains fun owner => Json.isPlain owner = true := by
  refine (r.findBinding_plains nickname).bind fun found hfound => ?_
  cases found with
  | none => rfl
  | some item => exact hfound item rfl

theorem isRegistered_plains (identity : Value) : (r.isRegistered identity).Plains fun _ => True :=
  (r.findItem_plains identity).bind fun _ _ => trivial

theorem nicknameTaken_plains (nickname : Bytes) :
    (r.nicknameTaken nickname).Plains fun _ => True := by
  refine (r.resolveNickname_plains nickname).bind fun owner _ => ?_
  split <;> trivial

theorem ensureAvailable_plains {caller : Value} (h : Json.isPlain caller = true)
    (nickname : Bytes) : (r.ensureAvailable caller nickname).Plains fun _ => True := by
  have hunregistered : (r.ensureUnregistered caller).Plains fun _ => True := by
    refine (r.isRegistered_plains caller).bind fun registered _ => ?_
    split
    · refine (closes_note _ _ _).bind fun _ _ => ⟨⟨.identityTaken, rfl⟩, ⟨_, rfl⟩, ?_⟩
      simpa [ServiceError.details, Json.isPlain_obj] using h
    · trivial
  have hfree : (r.ensureFree caller nickname).Plains fun _ => True := by
    refine (r.nicknameTaken_plains nickname).bind fun taken _ => ?_
    split
    · exact (closes_note _ _ _).bind fun _ _ => ⟨⟨.nicknameTaken, rfl⟩, ⟨_, rfl⟩, rfl⟩
    · trivial
  exact hunregistered.bind fun _ _ => hfree

theorem register_plains {caller : Value} (h : Json.isPlain caller = true)
    (nickname address : Bytes) : (r.register caller nickname address).Plains fun _ => True := by
  unfold register
  simp only [bind_eq]
  refine (r.ensureAvailable_plains h nickname).bind fun _ _ => ?_
  refine Closes.bind (R := fun _ => True) (plains_ofExcept ?_) fun _ _ => ?_
  · cases caller <;> trivial
  refine closes_now.bind fun now _ => (plains_store r.site _ ?_).attempt_bind fun x hx => ?_
  · exact h
  split
  · exact (closes_note _ _ _).bind fun _ _ => plains_ofExcept (IdentityItem.toRecord_plainly _)
  · exact (r.ensureAvailable_plains h nickname).bind fun _ _ => plains_failStorage _ _ _
  · exact hx

end Registry

theorem ContactItem.toRecord_plainly (item : ContactItem) :
    FailsPlainly item.toRecord :=
  (Field.fromStorageHex_plainly _ _).map fun _ _ => trivial

theorem ContactItem.toEntry_plainly (item : ContactItem) : FailsPlainly item.toEntry :=
  (Stamp.check_plainly _).bind fun _ _ => (Field.fromStorageHex_plainly _ _).bind fun _ _ =>
    item.toRecord_plainly.bind fun _ _ => trivial

namespace ContactBook
variable (b : ContactBook)

theorem findItem_plains (owner : Value) (address : Bytes) :
    (b.findItem owner address).Plains fun _ => True := by
  unfold findItem
  simp only [bind_eq, pure_eq]
  refine (plains_read b.site (.getContact owner (Field.addressDigest address)) trivial
    (fun item => item.bind (·.updatedAt))).attempt_bind fun x hx => ?_
  split
  · refine (plains_ofExcept (Field.fromStorageHex_plainly _ _)).bind fun found _ => ?_
    split
    · trivial
    · exact (closes_note _ _ _).bind fun _ _ => trivial
  · trivial
  · trivial
  · exact plains_failStorage _ _ _

theorem get_plains (owner : Value) (address : Bytes) :
    (b.get owner address).Plains fun _ => True := by
  refine (b.findItem_plains owner address).bind fun found _ => ?_
  cases found with
  | none => trivial
  | some item => exact plains_ofExcept item.toRecord_plainly

theorem contains_plains (owner : Value) (address : Bytes) :
    (b.contains owner address).Plains fun _ => True :=
  (b.findItem_plains owner address).bind fun _ _ => trivial

theorem upsert_plains (owner : Value) (address name : Bytes) :
    (b.upsert owner address name).Plains fun _ => True := by
  unfold upsert
  simp only [bind_eq]
  refine closes_now.bind fun now _ => ?_
  have hput : (b.putItem (.make now owner address name)).Plains fun _ => True := by
    refine Closes.bind (R := fun _ => True) (plains_ofExcept ?_) fun _ _ => plains_store _ _ trivial
    unfold ContactItem.requireOwner
    split <;> trivial
  refine hput.attempt_bind fun x _ => ?_
  split
  · exact (closes_note _ _ _).bind fun _ _ => plains_ofExcept (ContactItem.toRecord_plainly _)
  · exact plains_failStorage _ _ _

theorem remove_plains (owner : Value) (address : Bytes) :
    (b.remove owner address).Plains fun _ => True := by
  refine (plains_store b.site (.deleteContact owner _) trivial).attempt_bind fun x _ => ?_
  split
  · exact closes_note _ _ _
  · exact plains_failStorage _ _ _

theorem list_plains (owner : Value) : (b.list owner).Plains fun _ => True := by
  unfold list
  simp only [bind_eq, pure_eq]
  refine Closes.attempt_bind (R := fun _ => True) ?_ fun x _ => ?_
  · exact (plains_store b.site (.queryContacts owner) trivial).bind fun items _ =>
      plains_ofExcept (Plainly.mapM ContactItem.toEntry_plainly items)
  · split
    · exact (closes_note _ _ _).bind fun _ _ => trivial
    · exact plains_failStorage _ _ _

end ContactBook

namespace Transport

theorem isPlain_onBus (site : Site) : (onBus site .null .null).Plains Transport.IsPlain := by
  unfold onBus
  simp only [bind_eq, pure_eq]
  refine closes_environment.bind fun env _ => ?_
  split
  · exact ⟨⟨.configuration, rfl⟩, ⟨_, rfl⟩, rfl⟩
  · rfl

theorem isPlain_undelivered (message : Text) {bus cause : Value} (s : Signal)
    (hb : Json.isPlain bus = true) (hc : Json.isPlain cause = true) :
    (undelivered message bus s cause).IsPlain := by
  refine ⟨⟨.delivery, rfl⟩, ⟨_, rfl⟩, Json.isPlain_present (Json.isPlain_obj.2 ?_)⟩
  simpa [Json.isPlain] using ⟨hb, hc⟩

theorem firstEntry_plainly {reply : Object} (h : Json.isPlain (.obj reply) = true) :
    Plainly (fun v => Json.isPlain v = true) (firstEntry reply) := by
  have hentries : Json.isPlain
      ((Object.fieldOrNull "Entries" reply).orElse (.arr [.empty])) = true := by
    unfold Value.orElse
    split
    · exact Json.isPlain_fieldOrNull _ h
    · rfl
  unfold firstEntry
  split
  · rename_i entry rest heq
    rw [heq, Json.isPlain_arr] at hentries
    exact hentries entry List.mem_cons_self
  · trivial
  · trivial
  · trivial
  · trivial

theorem fieldOrNull_plainly {v : Value} (name : Text) (h : Json.isPlain v = true) :
    Plainly (fun v => Json.isPlain v = true) (v.fieldOrNull name) := by
  cases v with
  | obj o => exact Json.isPlain_fieldOrNull name h
  | _ => trivial

theorem readReply_plains {bus : Value} (s : Signal) {reply : Value} (hb : Json.isPlain bus = true)
    (h : Json.isPlain reply = true) : (readReply bus s reply).Plains fun _ => True := by
  unfold readReply
  simp only [bind_eq, pure_eq]
  cases reply with
  | obj fields =>
    refine Closes.bind (R := fun o => Json.isPlain (.obj o) = true) h fun fields h => ?_
    split
    · refine (plains_ofExcept (firstEntry_plainly h)).bind fun entry hentry => ?_
      refine (plains_ofExcept (fieldOrNull_plainly _ hentry)).bind fun code _ => ?_
      refine (plains_ofExcept (fieldOrNull_plainly _ hentry)).bind fun message hmessage => ?_
      exact (closes_note _ _ _).bind fun _ _ => isPlain_undelivered _ s hb hmessage
    · trivial
  | _ => trivial

theorem send_plains (slot : Nat) {bus : Value} (source : Value) (connected : Bool) (s : Signal)
    (hb : Json.isPlain bus = true) : (send slot bus source connected s).Plains fun _ => True := by
  unfold send
  simp only [bind_eq]
  refine Closes.bind (R := fun _ => True) (plains_ofExcept ?_) fun entry _ => ?_
  · unfold entryOf
    split <;> trivial
  refine Closes.bind (R := fun _ => True) ?_ fun _ _ => ?_
  · unfold connect
    cases connected with
    | true => trivial
    | false => exact ⟨trivial, fun env _ => ⟨trivial, fun _ _ => ⟨hb, fun _ _ => trivial⟩⟩⟩
  refine Closes.attempt_bind (R := fun v => Json.isPlain v = true)
    ⟨trivial, fun reply hreply => plains_ofExcept hreply⟩ fun x hx => ?_
  split
  · exact (readReply_plains s hb hx).bind fun _ _ => closes_note _ _ _
  · exact (closes_note _ _ _).bind fun _ _ => isPlain_undelivered _ s hb rfl
  · exact hx

theorem publish_plains (slot : Nat) (s : Signal) {transport : Transport} (h : transport.IsPlain) :
    (publish slot s transport).Plains fun _ => True := by
  cases transport with
  | bus name source connected => exact send_plains slot source connected s h
  | recording failure =>
    cases failure with
    | none => exact ⟨trivial, fun _ _ => trivial⟩
    | some failure => exact h
  | undefined => trivial

end Transport

namespace Channel
variable (c : Channel)

theorem transport_plains : c.transport.Plains Transport.IsPlain := by
  refine ⟨trivial, fun kept hkept => ?_⟩
  cases kept with
  | some transport => exact hkept transport rfl
  | none => exact (Transport.isPlain_onBus c.site).bind fun transport h => ⟨h, fun _ _ => h⟩

theorem relay_plains (s : Signal) : (c.relay s).Plains (· = s) :=
  c.transport_plains.bind fun _ h => (Transport.publish_plains c.slot s h).bind fun _ _ =>
    (closes_note _ _ _).bind fun _ _ => rfl

end Channel

end Rendezvous
