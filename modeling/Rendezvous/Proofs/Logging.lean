/-
  What services log.

  A service logs who it acts for, what it found and how its calls failed, all under headlines of its
  own.

  * `Act.notes_store`, `Act.notes_failStorage` and the like: what services ask;
  * `Registry.register_notes`, `ContactBook.upsert_notes`, `Channel.relay_notes` and the like: the
    services log nothing but fit entries.
-/
import Rendezvous.Proofs.Decoding
import Rendezvous.Proofs.Entries

namespace Rendezvous

open Act Log

/-! ## Questions -/

namespace Act
variable {α β : Type} {g : Scope} {R : α → Prop} {S : β → Prop}

theorem notes_ofExcept {x : Except Failure α} (h : Loggably R x) : (ofExcept x).Notes g R := by
  cases x <;> exact h

/-- Something is read. -/
theorem notes_reading {x : Except Failure α} (h : FailsLoggably x) :
    (ofExcept x).Notes g fun _ => True := by
  cases x with
  | ok a => trivial
  | error e => exact h e rfl

theorem notes_now : now.Notes g fun _ => True := ⟨trivial, fun _ _ => trivial⟩

theorem notes_environment : environment.Notes g fun env => env.busName g.site = g.bus :=
  ⟨trivial, fun _ hreply => hreply⟩

theorem notes_service (name : Text) :
    (service name).Notes g fun service => service.site = g.site :=
  ⟨trivial, fun _ hreply => notes_ofExcept hreply⟩

theorem notes_note {source : Text} {n : Note} {extra : Object}
    (h : g.Fits (n.entry (.str source) extra)) : (note source n extra).Notes g fun _ => True :=
  ⟨h, fun _ _ => trivial⟩

theorem notes_store (call : StoreCall) (hq : (Query.store call).IsFit g) :
    (store g.site call).Notes g (Query.FitResult call) := by
  refine ⟨hq, fun reply hreply => notes_ofExcept ?_⟩
  cases reply with
  | ok result => exact hreply
  | error e => exact call.isLoggable_explain g.site.tables hreply

/-- Something is read with its stamp. -/
theorem notes_read (call : StoreCall) (hq : (Query.store call).IsFit g)
    (stamp : call.Result → Option Text) :
    ((store g.site call).bind fun item => (ofExcept (Stamp.check (stamp item))).bind fun _ =>
      .done item).Notes g (Query.FitResult call) :=
  (notes_store call hq).bind fun _ hitem =>
    (notes_reading (Stamp.check_loggably _)).bind fun _ _ => hitem

theorem notes_failStorage (operation : Text) {table : Text}
    (ho : operation ∈ storageOperations) (ht : table.IsWhole) {e : Failure}
    (he : e.IsLoggable) : (failStorage operation table e : Act α).Notes g R :=
  ⟨fits_storage ho ht he, fun _ _ => Failure.isLoggable_service rfl nofun⟩

end Act

/-! ## Services -/

namespace Scope
variable (g : Scope)

/-- The services of a deployment. -/
def registry : Registry := ⟨g.site⟩

def book : ContactBook := ⟨g.site⟩

def channel (slot : Nat) : Channel := ⟨g.site, slot⟩

end Scope

namespace Registry
variable {g : Scope} (hg : g.IsWhole)
include hg

theorem findItem_notes {identity : Value} (hi : g.Tells identity) :
    (g.registry.findItem identity).Notes g fun _ => True := by
  have htold : ∀ field ∈ ([("identity", identity)] : Object), ToldAt g.told field :=
    List.forall_mem_singleton.2 (hi.at _)
  have habsent : (Act.note source (.plain .debug (.str "Identity not registered"))
      [("identity", identity)]).Notes g fun _ => True :=
    notes_note (isFit_entry rfl
      (mem_headlines_registry (List.mem_of_getElem? (i := 0) rfl)) rfl htold)
  unfold findItem
  simp only [bind_eq, pure_eq]
  refine (notes_read (.getIdentity identity) trivial
    (fun item => item.bind (·.createdAt))).attempt_bind fun x hx => ?_
  split
  · refine (notes_note (fits_table "get" ?_ hg.tables.identities rfl htold)).bind
      fun _ _ => trivial
    exact mem_headlines_registry (List.mem_of_getElem? (i := 4) rfl)
  · exact habsent.bind fun _ _ => trivial
  · exact habsent.bind fun _ _ => trivial
  · exact notes_failStorage _ (List.mem_of_getElem? (i := 0) rfl) hg.tables.identities hx

theorem findBinding_notes (nickname : Bytes) : (g.registry.findBinding nickname).Notes g
    (Query.FitResult (.getBinding (Field.storageHex nickname))) := by
  have habsent : (Act.note source (.plain .debug (.str "Nickname not bound"))
      [("nickname", .str (Field.storageHex nickname))]).Notes g fun _ => True :=
    notes_note (isFit_entry rfl
      (mem_headlines_registry (List.mem_of_getElem? (i := 1) rfl)) rfl
      (List.forall_mem_singleton.2 (toldAt_whole (Field.isWhole_hex nickname) _)))
  unfold findBinding
  simp only [bind_eq, pure_eq]
  refine (notes_read (.getBinding (Field.storageHex nickname)) trivial
    (fun item => item.bind (·.createdAt))).attempt_bind fun x hx => ?_
  split
  · rename_i item
    refine (notes_note (fits_table "get" ?_ hg.tables.nicknames rfl
      (List.forall_mem_singleton.2 (toldAt_json (hx item rfl) _)))).bind fun _ _ => hx
    exact mem_headlines_registry (List.mem_of_getElem? (i := 5) rfl)
  · exact habsent.bind fun _ _ => nofun
  · exact habsent.bind fun _ _ => nofun
  · exact notes_failStorage _ (List.mem_of_getElem? (i := 1) rfl) hg.tables.nicknames hx

theorem findRecord_notes {identity : Value} (hi : g.Tells identity) :
    (g.registry.findRecord identity).Notes g fun _ => True := by
  refine (findItem_notes hg hi).bind fun found _ => ?_
  cases found with
  | none => trivial
  | some item => exact (notes_reading item.toRecord_loggably).bind fun _ _ => trivial

theorem resolveNickname_notes (nickname : Bytes) :
    (g.registry.resolveNickname nickname).Notes g fun owner => owner.IsJson fieldDepth := by
  refine (findBinding_notes hg nickname).bind fun found hfound => ?_
  cases found with
  | none => exact .null
  | some item => exact hfound item rfl

theorem nicknameTaken_notes (nickname : Bytes) :
    (g.registry.nicknameTaken nickname).Notes g fun _ => True := by
  refine (resolveNickname_notes hg nickname).bind fun owner _ => ?_
  split <;> trivial

theorem ensureAvailable_notes {caller : Value} (hc : g.Tells caller) (nickname : Bytes) :
    (g.registry.ensureAvailable caller nickname).Notes g fun _ => True := by
  have hunregistered : (g.registry.ensureUnregistered caller).Notes g fun _ => True := by
    refine Notes.bind (R := fun _ => True) ((findItem_notes hg hc).bind fun _ _ => trivial)
      fun registered _ => ?_
    split
    · refine (notes_note (isFit_entry rfl ?_ rfl ?_)).bind fun _ _ =>
        Failure.isLoggable_service (c := .identityTaken) rfl nofun
      · exact mem_headlines_registry (List.mem_of_getElem? (i := 2) rfl)
      · exact List.forall_mem_singleton.2 (hc.at _)
    · trivial
  have hfree : (g.registry.ensureFree caller nickname).Notes g fun _ => True := by
    refine (nicknameTaken_notes hg nickname).bind fun taken _ => ?_
    split
    · refine (notes_note (isFit_entry rfl ?_ rfl ?_)).bind fun _ _ =>
        Failure.isLoggable_service (c := .nicknameTaken) rfl nofun
      · exact mem_headlines_registry (List.mem_of_getElem? (i := 3) rfl)
      · exact List.forall_mem_cons.2 ⟨hc.at _, List.forall_mem_singleton.2
          (toldAt_whole (Field.isWhole_decodeNickname nickname) _)⟩
    · trivial
  exact hunregistered.bind fun _ _ => hfree

theorem register_notes {caller : Value} (hc : caller.IsJson fieldDepth) (nickname address : Bytes) :
    (g.registry.register caller nickname address).Notes g fun _ => True := by
  have htold : g.Tells caller := Or.inl hc
  unfold register
  simp only [bind_eq]
  refine (ensureAvailable_notes hg htold nickname).bind fun _ _ => ?_
  refine Notes.bind (R := fun _ => True) (notes_reading ?_) fun _ _ => ?_
  · cases caller with
    | null => exact .error trivial
    | _ => exact .ok _
  refine notes_now.bind fun now _ => ?_
  -- the binding that is put is of the caller, who may be logged whenever it is found again
  refine Notes.attempt_bind (R := fun _ => True) ((notes_store _ ?_).mono fun _ _ => trivial)
    fun x hx => ?_
  · exact hc
  split
  · refine (notes_note (fits_carriedOut (Text.isWhole_ofString _) ?_ htold rfl ?_)).bind fun _ _ =>
      notes_reading (IdentityItem.toRecord_loggably _)
    · exact mem_headlines_registry (List.mem_of_getElem? (i := 6) rfl)
    · exact List.forall_mem_singleton.2
        (toldAt_whole (Field.isWhole_decodeNickname nickname) _)
  · exact (ensureAvailable_notes hg htold nickname).bind fun _ _ =>
      notes_failStorage _ (List.mem_of_getElem? (i := 2) rfl) hg.tables.identities hx
  · exact hx

end Registry

namespace ContactBook
variable {g : Scope} (hg : g.IsWhole)
include hg

theorem logDone_notes (operation : String) {extra : Object}
    (hh : ⟨source, .info, tableMessage operation g.site.tables.contacts⟩ ∈
      bookHeadlines g.site.tables)
    (hnames : areFieldNames ("table_name" :: "operation" :: "success" :: Object.keys extra) = true)
    (he : ∀ field ∈ extra, ToldAt g.told field) :
    (g.book.logDone operation extra).Notes g fun _ => True :=
  notes_note (fits_table operation (mem_headlines_book hh) hg.tables.contacts hnames he)

variable {owner : Value} (ho : g.Tells owner)
include ho

theorem findItem_notes (address : Bytes) : (g.book.findItem owner address).Notes g fun _ => True := by
  unfold findItem
  simp only [bind_eq, pure_eq]
  refine (notes_read (.getContact owner (Field.addressDigest address)) trivial
    (fun item => item.bind (·.updatedAt))).attempt_bind fun x hx => ?_
  split
  · refine (notes_reading (Field.fromStorageHex_loggably _ _)).bind fun found _ => ?_
    split
    · trivial
    · refine (notes_note (isFit_entry rfl ?_ rfl ?_)).bind fun _ _ => trivial
      · exact mem_headlines_book (List.mem_of_getElem? (i := 0) rfl)
      · exact List.forall_mem_singleton.2 (ho.at _)
  · trivial
  · trivial
  · exact notes_failStorage _ (List.mem_of_getElem? (i := 3) rfl) hg.tables.contacts hx

theorem get_notes (address : Bytes) : (g.book.get owner address).Notes g fun _ => True := by
  refine (findItem_notes hg ho address).bind fun found _ => ?_
  cases found with
  | none => trivial
  | some item => exact notes_reading item.toRecord_loggably

theorem contains_notes (address : Bytes) : (g.book.contains owner address).Notes g fun _ => True :=
  (findItem_notes hg ho address).bind fun _ _ => trivial

theorem upsert_notes (hcounts : g.counts = false) (address name : Bytes) :
    (g.book.upsert owner address name).Notes g fun _ => True := by
  unfold upsert
  simp only [bind_eq]
  refine notes_now.bind fun now _ => ?_
  have hput : (g.book.putItem (.make now owner address name)).Notes g fun _ => True := by
    refine Notes.bind (R := fun _ => True) (notes_reading ?_) fun _ _ => notes_store _ hcounts
    unfold ContactItem.requireOwner
    split
    · exact .error trivial
    · exact .ok _
  refine hput.attempt_bind fun x hx => ?_
  split
  · refine (logDone_notes hg "upsert" (List.mem_of_getElem? (i := 1) rfl) rfl ?_).bind
      fun _ _ => notes_reading (ContactItem.toRecord_loggably _)
    exact List.forall_mem_cons.2
      ⟨ho.at _, List.forall_mem_singleton.2 (toldAt_whole (Field.isWhole_hex _) _)⟩
  · exact notes_failStorage _ (List.mem_of_getElem? (i := 4) rfl) hg.tables.contacts hx

theorem remove_notes (address : Bytes) : (g.book.remove owner address).Notes g fun _ => True := by
  refine (notes_store (.deleteContact owner _) trivial).attempt_bind fun x hx => ?_
  split
  · refine logDone_notes hg "remove" (List.mem_of_getElem? (i := 2) rfl) rfl ?_
    exact List.forall_mem_cons.2
      ⟨ho.at _, List.forall_mem_singleton.2 (toldAt_whole (Field.isWhole_hex _) _)⟩
  · exact notes_failStorage _ (List.mem_of_getElem? (i := 5) rfl) hg.tables.contacts hx

theorem list_notes (hcounts : g.counts = true) :
    (g.book.list owner).Notes g fun _ => True := by
  unfold list
  simp only [bind_eq, pure_eq]
  refine Notes.attempt_bind
    (R := fun contacts => Integer.isWritable (contacts.length : Nat) = true) ?_ fun x hx => ?_
  · refine (notes_store (.queryContacts owner) hcounts).bind fun items hitems =>
      notes_ofExcept ?_
    cases hread : items.mapM ContactItem.toEntry with
    | ok contacts =>
      -- what is counted is read of as many items as were found
      have hlength : items.length = contacts.length := (mapM_eq_ok_iff.1 hread).length_eq
      change Integer.isWritable contacts.length = true
      rw [← hlength]
      exact hitems
    | error e => exact FailsBy.mapM ContactItem.toEntry_loggably items e hread
  · split
    · refine (logDone_notes hg "query" (List.mem_of_getElem? (i := 3) rfl) rfl ?_).bind
        fun _ _ => trivial
      exact List.forall_mem_cons.2
        ⟨ho.at _, List.forall_mem_singleton.2 (toldAt_json (.int hx) _)⟩
    · exact notes_failStorage _ (List.mem_of_getElem? (i := 6) rfl) hg.tables.contacts hx

end ContactBook

namespace Transport
variable {g : Scope}

theorem onBus_notes : (onBus g.site .null .null).Notes g (Transport.IsLoggable g.bus) := by
  unfold onBus
  simp only [bind_eq, pure_eq]
  refine notes_environment.bind fun env henv => ?_
  split
  · exact Failure.isLoggable_service (c := .configuration) rfl nofun
  · exact congrArg Value.str henv

theorem isLoggable_undelivered (message : Text) (bus : Value) (s : Signal) (cause : Value) :
    (undelivered message bus s cause).IsLoggable :=
  Failure.isLoggable_service (c := .delivery) rfl nofun

variable (hg : g.IsWhole) {s : Signal}

include hg in
theorem logSent_notes (success : Bool) {extra : Object}
    (hnames : areFieldNames ("kind" :: "event_bus" :: "success" :: Object.keys extra) = true)
    (he : ∀ field ∈ extra, ToldAt g.told field) :
    (logSent (.str g.bus) s success extra).Notes g fun _ => True :=
  notes_note (fits_notification s.kind success hg.bus hnames he)

theorem firstEntry_loggably {reply : Object} (h : (Value.obj reply).IsJson Json.maxDepth) :
    Loggably (fun entry => entry.IsJson fieldDepth) (firstEntry reply) := by
  have hnone : (Value.arr [.empty]).IsJson 2 :=
    .arr (List.forall_mem_singleton.2 (.obj List.nodup_nil (List.forall_mem_nil _)
      (List.forall_mem_nil _)))
  have hentries : ((Object.fieldOrNull "Entries" reply).orElse (.arr [.empty])).IsJson fieldDepth := by
    unfold Value.orElse
    split
    · exact h.fieldOrNull _
    · exact hnone.mono (by decide)
  unfold firstEntry
  split
  · rename_i entry rest heq
    rw [heq] at hentries
    exact hentries.item List.mem_cons_self
  · trivial
  · trivial
  · trivial
  · trivial

theorem fieldOrNull_loggably {v : Value} (name : Text) (h : v.IsJson fieldDepth) :
    Loggably (fun field => field.IsJson fieldDepth) (v.fieldOrNull name) := by
  cases v with
  | obj o => exact (h.mono (Nat.le_succ fieldDepth)).fieldOrNull name
  | _ => trivial

include hg in
theorem readReply_notes {reply : Value} (h : reply.IsJson Json.maxDepth) :
    (readReply (.str g.bus) s reply).Notes g fun _ => True := by
  unfold readReply
  simp only [bind_eq, pure_eq]
  cases reply with
  | obj fields =>
    refine Notes.bind (R := fun o => (Value.obj o).IsJson Json.maxDepth) h fun fields h => ?_
    split
    · refine (notes_ofExcept (firstEntry_loggably h)).bind fun entry hentry => ?_
      refine (notes_ofExcept (fieldOrNull_loggably _ hentry)).bind fun code hcode => ?_
      refine (notes_ofExcept (fieldOrNull_loggably _ hentry)).bind fun message hmessage => ?_
      refine (logSent_notes hg false rfl ?_).bind fun _ _ => isLoggable_undelivered _ _ _ _
      exact List.forall_mem_cons.2 ⟨toldAt_json hcode _,
        List.forall_mem_singleton.2 (toldAt_json hmessage _)⟩
    · trivial
  | _ => trivial

variable (hs : g.Tells s.sender) (hr : g.Tells s.recipient)

include hg hs hr in
theorem send_notes (slot : Nat) (source : Value) (connected : Bool) :
    (send slot (.str g.bus) source connected s).Notes g fun _ => True := by
  unfold send
  simp only [bind_eq]
  refine Notes.bind (R := fun _ => True) (notes_reading ?_) fun entry _ => ?_
  · unfold entryOf
    split
    · exact .ok _
    · exact .error trivial
  refine Notes.bind (R := fun _ => True) ?_ fun _ _ => ?_
  · unfold connect
    cases connected with
    | true => trivial
    | false => exact ⟨trivial, fun env _ => ⟨trivial, fun _ _ => ⟨rfl, fun _ _ => trivial⟩⟩⟩
  refine ⟨trivial, fun reply hreply => ?_⟩
  cases reply with
  | ok reply =>
    refine (readReply_notes hg hreply).bind fun _ _ => logSent_notes hg true rfl ?_
    exact List.forall_mem_cons.2 ⟨hs.at _, List.forall_mem_singleton.2 (hr.at _)⟩
  | error e =>
    cases e with
    | remote e =>
      refine (logSent_notes hg false rfl ?_).bind fun _ _ => isLoggable_undelivered _ _ _ _
      exact List.forall_mem_singleton.2 (toldAt_wording (by decide) _)
    | service e => exact hreply.elim
    | _ => trivial

include hg hs hr in
theorem publish_notes (slot : Nat) {transport : Transport} (h : transport.IsLoggable g.bus) :
    (publish slot s transport).Notes g fun _ => True := by
  cases transport with
  | bus name source connected =>
    obtain rfl : name = .str g.bus := h
    exact send_notes hg hs hr slot source connected
  | recording failure =>
    cases failure with
    | none => exact ⟨trivial, fun _ _ => trivial⟩
    | some failure => exact h
  | undefined => trivial

end Transport

namespace Channel
variable {g : Scope} (slot : Nat)

theorem transport_notes : (g.channel slot).transport.Notes g (Transport.IsLoggable g.bus) := by
  refine ⟨trivial, fun kept hkept => ?_⟩
  cases kept with
  | some transport => exact hkept transport rfl
  | none => exact Transport.onBus_notes.bind fun transport h => ⟨h, fun _ _ => h⟩

theorem relay_notes (hg : g.IsWhole) {s : Signal} (hs : g.Tells s.sender)
    (hr : g.Tells s.recipient) : ((g.channel slot).relay s).Notes g fun _ => True := by
  have hoperation : (operationOf s.kind).IsWhole := by
    cases s.kind <;> exact Text.isWhole_ofString _
  have hnote : (Act.note Transport.logSource (.carriedOut (.str (operationOf s.kind)) s.sender)
      [("recipient", s.recipient)]).Notes g fun _ => True :=
    notes_note (fits_carriedOut hoperation
      (mem_headlines_channel (List.mem_of_getElem? (i := 2) rfl)) hs rfl
      (List.forall_mem_singleton.2 (hr.at _)))
  exact (transport_notes slot).bind fun _ h => (Transport.publish_notes hg hs hr slot h).bind
    fun _ _ => hnote.bind fun _ _ => trivial

end Channel

end Rendezvous
