/-
  Byte strings of any length.

  Requests bring a byte string to the width of its field before a service is given it.  A service
  that is given one of another length stores it as it is, and reads it back at the width of its
  field.  What is too long can be written, and not be read back; a contact at an address that is too
  short is not found again.

  * `Tables.Handled`: tables that come of calls of the services, whatever they are given;
  * `Registry.register_taken` and `register_free`, `ContactBook.upsert_run`: how a call ends;
  * `Act.Clean`: nothing is written behind an error, and what is returned is what is looked up next;
  * `Handled.clean_iff`: for which lengths that is so.
-/
import Rendezvous.Proofs.Book
import Rendezvous.Proofs.Enrolling

namespace Rendezvous

/-! ## Tables -/

/-- A row changes nothing exactly where it is there already. -/
theorem Table.put_eq_self_iff {κ ρ : Type} [DecidableEq κ] {key : κ} {row : ρ}
    {table : Table κ ρ} : table.put key row = table ↔ table.find? key = some row := by
  induction table with
  | nil => simp [put, find?]
  | cons entry table ih =>
    obtain ⟨k, old⟩ := entry
    by_cases hk : k = key
    · simp [put, find?, hk, eq_comm]
    · simp [put, find?, hk, ih]

namespace Tables

/-- The tables with a record and its binding put, of whatever length. -/
def enter (t : Tables) (now : Instant) (caller : Text) (nickname address : Bytes) : Tables :=
  (t.putIdentity (.text caller) (.make now (.str caller) nickname address)).putBinding
    (.make now (.str caller) nickname)

variable {t t' : Tables} {now : Instant}

theorem Legible.of_same (h : t.Legible) (hi : t'.identities = t.identities)
    (hn : t'.nicknames = t.nicknames) : t'.Legible where
  record key item hitem := h.record key item (hi ▸ hitem)
  binding key item hitem := h.binding key item (hn ▸ hitem)

theorem Legible.enter (h : t.Legible) (hd : now.IsDated) (caller : Text)
    (nickname address : Bytes) : (t.enter now caller nickname address).Legible where
  record key item hitem := by
    by_cases hkey : key = .text caller
    · subst hkey
      obtain rfl := Option.some.inj ((Table.find?_put_self _ _ _).symm.trans hitem)
      exact Stamp.check_stampText hd
    · exact h.record key item ((Table.find?_put_of_ne hkey _ _).symm.trans hitem)
  binding key item hitem := by
    by_cases hkey : key = Field.storageHex nickname
    · subst hkey
      obtain rfl := Option.some.inj ((Table.find?_put_self _ _ _).symm.trans hitem)
      exact ⟨Stamp.check_stampText hd, caller, rfl⟩
    · exact h.binding key item ((Table.find?_put_of_ne hkey _ _).symm.trans hitem)

end Tables

theorem World.run_clock {α : Type} (act : Act α) (w : World) : (act.run w).2.clock = w.clock := by
  induction act generalizing w with
  | done a => rfl
  | fail e => rfl
  | ask q next ih => exact (ih _ _).trans (w.reply_rest q).1

namespace Act

theorem run_now {α : Type} (f : Instant → Act α) (w : World) :
    (now.bind f).run w = (f w.clock).run w := rfl

/-- In a quiet world a call to the store is answered by the tables. -/
theorem run_store {w : World} (hw : w.IsQuiet) (site : Site) (call : StoreCall) :
    (store site call).run w = ((w.tables.call call).1.mapError (call.explain site.tables),
      { w with tables := (w.tables.call call).2 }) := by
  have hreply : w.reply (.store call) = _ := World.callStore_alone hw.faultless hw.alone call
  rw [store, run_ask, hreply]
  cases (w.tables.call call).1 <;> rfl

end Act

/-! ## Fields -/

namespace Field

/-- A stored value of any length is read back at the width of its field. -/
theorem fromStorageHex_storageHex_eq (f : Field) (bytes : Bytes) :
    fromStorageHex f.width (.str (storageHex bytes)) = pad f.width .null bytes := by
  simp only [fromStorageHex, storedBytes_storageHex, Except.bind]

theorem pad_of_le {f : Field} {label : Value} {bytes : Bytes} (h : bytes.length ≤ f.width) :
    pad f.width label bytes = .ok (Bytes.fill f.width bytes) :=
  pad_eq_ok_iff.2 ⟨by exact_mod_cast h, rfl⟩

theorem pad_of_lt {f : Field} {bytes : Bytes} (label : Value) (h : f.width < bytes.length) :
    ∃ e, pad f.width label bytes = .error e := by
  refine ⟨_, if_pos ?_⟩
  exact_mod_cast h

end Field

/-- What a registration returns, unless something in it is too long. -/
theorem IdentityItem.toRecord_make (now : Instant) (identity : Value) {nickname address : Bytes} :
    (∃ record, (make now identity nickname address).toRecord = .ok record) ↔
      nickname.length ≤ Field.nickname.width ∧ address.length ≤ Field.address.width := by
  simp only [toRecord, make, Value.ofText?, Field.fromStorageHex_storageHex_eq]
  by_cases ha : address.length ≤ Field.address.width
  · by_cases hn : nickname.length ≤ Field.nickname.width
    · simp [Field.pad_of_le ha, Field.pad_of_le hn, ha, hn, Bind.bind, Except.bind, pure,
        Except.pure]
    · obtain ⟨e, he⟩ := Field.pad_of_lt .null (not_le.1 hn)
      simp [Field.pad_of_le ha, he, hn, Bind.bind, Except.bind]
  · obtain ⟨e, he⟩ := Field.pad_of_lt .null (not_le.1 ha)
    simp [he, ha, Bind.bind, Except.bind]

namespace ContactItem
variable (now : Instant) (owner : Value) (address : Bytes) {name : Bytes}

theorem addressBytes_make : (make now owner address name).addressBytes =
    Field.pad Field.contactAddress.width .null address :=
  Field.fromStorageHex_storageHex_eq .contactAddress address

theorem toRecord_make : (make now owner address name).toRecord =
    (Field.pad Field.contactName.width .null name).map .mk :=
  congrArg (Except.map ContactRecord.mk) (Field.fromStorageHex_storageHex_eq .contactName name)

theorem toRecord_make_of_le (h : name.length ≤ Field.contactName.width) :
    (make now owner address name).toRecord =
      .ok ⟨Bytes.fill Field.contactName.width name⟩ := by
  rw [toRecord_make, Field.pad_of_le h]
  rfl

theorem toRecord_make_of_lt (h : Field.contactName.width < name.length) :
    ∃ e, (make now owner address name).toRecord = .error e := by
  obtain ⟨e, he⟩ := Field.pad_of_lt .null h
  exact ⟨e, by rw [toRecord_make, he]; rfl⟩

end ContactItem

/-! ## Registering -/

/-- How a program ends that leaves the tables as they are. -/
structure Act.Tells {α : Type} (act : Act α) (w : World) (x : Except Failure α) : Prop where
  ends : (act.run w).1 = x
  tables : (act.run w).2.tables = w.tables

namespace Act.Tells
variable {α β : Type} {act : Act α} {w : World}

/-- What comes after a result is told goes on in a world with the same tables. -/
theorem run_bind {a : α} (h : act.Tells w (.ok a)) (hw : w.IsQuiet) (f : α → Act β) :
    ∃ w' : World, w'.IsQuiet ∧ w'.clock = w.clock ∧ w'.tables = w.tables ∧
      (act.bind f).run w = (f a).run w' := by
  refine ⟨(act.run w).2, hw.run act, World.run_clock act w, h.tables, ?_⟩
  have hended : act.run w = (.ok a, (act.run w).2) := Prod.ext h.ends rfl
  rw [Act.run_bind, hended]

theorem bind_ok {a : α} {f : α → Act β} {x : Except Failure β} (h : act.Tells w (.ok a))
    (hw : w.IsQuiet)
    (hf : ∀ w' : World, w'.IsQuiet → w'.tables = w.tables → (f a).Tells w' x) :
    (act.bind f).Tells w x := by
  obtain ⟨w', hquiet, -, htables, hrun⟩ := h.run_bind hw f
  obtain ⟨hx, ht⟩ := hf w' hquiet htables
  exact ⟨by rw [hrun, hx], by rw [hrun, ht, htables]⟩

theorem bind_error {e : Failure} {f : α → Act β} (h : act.Tells w (.error e)) :
    (act.bind f).Tells w (.error e) := by
  have hended : act.run w = (.error e, (act.run w).2) := Prod.ext h.ends rfl
  constructor <;> rw [Act.run_bind, hended]
  exact h.tables

theorem attempt {x : Except Failure α} (h : act.Tells w x) : act.attempt.Tells w (.ok x) := by
  constructor <;> rw [Act.run_attempt]
  exacts [congrArg Except.ok h.ends, h.tables]

theorem ofExcept (x : Except Failure α) (w : World) : (Act.ofExcept x).Tells w x := by
  cases x <;> exact ⟨rfl, rfl⟩

end Act.Tells

namespace Registry

variable (r : Registry) {w : World} (hw : w.IsQuiet) (h : w.tables.Legible) (caller : Text)
  (nickname address : Bytes)

/-- What is found out may be a reason to refuse. -/
theorem refuse_tells (hw : w.IsQuiet) {act : Act Bool} {taken : Bool} {source : Text}
    {n : Log.Note} {extra : Object} {e : Failure} (hact : act.Tells w (.ok taken)) :
    (act.bind fun b => if b = true then (Act.note source n extra).bind fun _ => .fail e
      else .done ()).Tells w (if taken = true then .error e else .ok ()) :=
  hact.bind_ok hw fun w' _ _ => by cases taken <;> exact ⟨rfl, rfl⟩

include hw h

theorem ensureUnregistered_tells : (r.ensureUnregistered (.str caller)).Tells w
    (if w.tables.registered caller = true then .error (.service (.identityTaken (.str caller)))
      else .ok ()) := by
  obtain ⟨_, hx, rfl, ht⟩ := Scene.Ends.run hw
    (isRegistered_ends r (s := ⟨w, []⟩) Troubles.areTold_quiet h caller)
  exact refuse_tells hw ⟨hx, ht⟩

theorem ensureFree_tells : (r.ensureFree (.str caller) nickname).Tells w
    (if w.tables.bound nickname = true then
      .error (.service (.nicknameTaken (.str (Field.decodeNickname nickname)))) else .ok ()) := by
  obtain ⟨_, hx, rfl, ht⟩ := Scene.Ends.run hw
    (nicknameTaken_ends r (s := ⟨w, []⟩) Troubles.areTold_quiet h nickname)
  exact refuse_tells hw ⟨hx, ht⟩

/-- The caller is looked up first. -/
theorem ensureAvailable_tells : (r.ensureAvailable (.str caller) nickname).Tells w
    (if w.tables.registered caller = true then .error (.service (.identityTaken (.str caller)))
      else if w.tables.bound nickname = true then
        .error (.service (.nicknameTaken (.str (Field.decodeNickname nickname))))
      else .ok ()) := by
  have hcaller := ensureUnregistered_tells r hw h caller
  split
  next hreg =>
    rw [if_pos hreg] at hcaller
    exact hcaller.bind_error
  next hreg =>
    rw [if_neg hreg] at hcaller
    refine hcaller.bind_ok hw fun w' hw' ht => ?_
    have hnickname := ensureFree_tells r hw' (ht ▸ h) caller nickname
    rwa [ht] at hnickname

theorem register_taken
    (htaken : w.tables.registered caller = true ∨ w.tables.bound nickname = true) :
    ∃ e, (r.register (.str caller) nickname address).Tells w (.error e) := by
  have hchecked := ensureAvailable_tells r hw h caller nickname
  split at hchecked
  next => exact ⟨_, hchecked.bind_error⟩
  next hreg =>
    rw [if_pos (htaken.resolve_left hreg)] at hchecked
    exact ⟨_, hchecked.bind_error⟩

/-- Where both are free, the registration is put, whatever its length. -/
theorem register_free (hfree : w.tables.registered caller = false)
    (hunbound : w.tables.bound nickname = false) :
    ((r.register (.str caller) nickname address).run w).1 =
        (IdentityItem.make w.clock (.str caller) nickname address).toRecord ∧
      ((r.register (.str caller) nickname address).run w).2.tables =
        w.tables.enter w.clock caller nickname address := by
  have hchecked := ensureAvailable_tells r hw h caller nickname
  rw [hfree, hunbound, if_neg Bool.false_ne_true, if_neg Bool.false_ne_true] at hchecked
  obtain ⟨w', hw', hclock, ht, hrun⟩ := hchecked.run_bind hw _
  have hcall : w'.tables.call (.register (.make w'.clock (.str caller) nickname address)
      (.make w'.clock (.str caller) nickname)) =
        (.ok (), w'.tables.enter w'.clock caller nickname address) := by
    have hadmits : w'.tables.admits (.text caller) (Field.storageHex nickname) = true := by
      rw [ht]
      exact Bool.and_eq_true_iff.2
        ⟨Option.isSome_eq_false_iff.1 hfree, Option.isSome_eq_false_iff.1 hunbound⟩
    exact if_pos hadmits
  unfold register
  rw [Act.bind_eq, hrun, ← hclock, ← ht]
  simp only [Act.bind_eq, Act.liftM_eq, requireCaller, Act.ofExcept_ok, Act.done_bind]
  rw [Act.run_now, Act.run_bind, Act.run_attempt, Act.run_store hw', hcall]
  cases (IdentityItem.make w'.clock (.str caller) nickname address).toRecord <;> exact ⟨rfl, rfl⟩

/-- What is put is what is looked up, if it can be read. -/
theorem getRecord_tells {item : IdentityItem} {record : AddressRecord}
    (hitem : w.tables.identities.find? (.text caller) = some item)
    (hrecord : item.toRecord = .ok record) :
    (r.getRecord (.str caller)).Tells w (.ok record) := by
  obtain ⟨_, hx, rfl, ht⟩ := Scene.Ends.run hw
    (findItem_ends r (s := ⟨w, []⟩) Troubles.areTold_quiet h caller)
  have hfound : (r.findItem (.str caller)).Tells w (.ok (some item)) := ⟨hitem ▸ hx, ht⟩
  have hread : (r.findRecord (.str caller)).Tells w (.ok (some record)) := by
    refine hfound.bind_ok hw fun w' _ _ => ?_
    simp only [Act.bind_eq, Act.liftM_eq, Act.pure_eq, hrecord, Act.ofExcept_ok, Act.done_bind]
    exact ⟨rfl, rfl⟩
  exact hread.bind_ok hw fun w' _ _ => ⟨rfl, rfl⟩

end Registry

/-! ## Contacts -/

namespace ContactBook

variable (b : ContactBook) {w : World} (hw : w.IsQuiet) (owner : Text) (address name : Bytes)
include hw

/-- A contact is put, whatever its length. -/
theorem upsert_run :
    ((b.upsert (.str owner) address name).run w).1 =
        (ContactItem.make w.clock (.str owner) address name).toRecord ∧
      ((b.upsert (.str owner) address name).run w).2.tables =
        w.tables.putContact (.text owner) (.make w.clock (.str owner) address name) := by
  have howner : (ContactItem.make w.clock (.str owner) address name).requireOwner = .ok () := rfl
  have hcall : w.tables.call (.putContact (.make w.clock (.str owner) address name)) =
      (.ok (), w.tables.putContact (.text owner) (.make w.clock (.str owner) address name)) := rfl
  unfold upsert putItem
  simp only [Act.bind_eq, Act.liftM_eq]
  rw [Act.run_now, howner, Act.ofExcept_ok, Act.done_bind, Act.run_bind, Act.run_attempt,
    Act.run_store hw, hcall]
  cases (ContactItem.make w.clock (.str owner) address name).toRecord <;> exact ⟨rfl, rfl⟩

/-- What is under the key of an address counts only if it has this address. -/
theorem get_tells {item : ContactItem}
    (hitem : w.tables.contacts.find? (Tables.contactKey owner address) = some item)
    (hstamp : Stamp.check item.updatedAt = .ok ()) : (b.get (.str owner) address).Tells w
      (item.addressBytes.bind fun found =>
        if found = address then item.toRecord else .ok .empty) := by
  have hcall : w.tables.call (.getContact (.str owner) (Field.addressDigest address)) =
      (.ok (some item), w.tables) := Prod.ext (congrArg Except.ok hitem) rfl
  have hread : (b.readItem (.str owner) address).Tells w (.ok (some item)) := by
    unfold readItem
    simp only [Act.bind_eq, Act.liftM_eq, Act.pure_eq]
    have hstored : (Act.store b.site (.getContact (.str owner) (Field.addressDigest address))).Tells
        w (.ok (some item)) := by
      constructor <;> rw [Act.run_store hw, hcall]
      rfl
    refine hstored.bind_ok hw fun w' _ _ => ?_
    rw [Option.bind_some, hstamp]
    exact ⟨rfl, rfl⟩
  have hfound : (b.findItem (.str owner) address).Tells w (item.addressBytes.bind fun found =>
      .ok (if found = address then some item else none)) := by
    refine hread.attempt.bind_ok hw fun w' _ _ => ?_
    cases haddress : item.addressBytes with
    | error e =>
      simp only [Act.bind_eq, Act.liftM_eq, haddress]
      exact ⟨rfl, rfl⟩
    | ok found =>
      simp only [Act.bind_eq, Act.liftM_eq, haddress, Act.ofExcept_ok, Act.done_bind, Except.bind]
      split <;> exact ⟨rfl, rfl⟩
  cases haddress : item.addressBytes with
  | error e =>
    rw [haddress] at hfound
    exact hfound.bind_error
  | ok found =>
    rw [haddress] at hfound
    refine hfound.bind_ok hw fun w' _ _ => ?_
    by_cases hsame : found = address
    · simp only [Except.bind, hsame, if_true]
      exact .ofExcept _ _
    · simp only [Except.bind, hsame, if_false]
      exact ⟨rfl, rfl⟩

end ContactBook

/-- A contact changes nothing exactly where it is there already. -/
theorem Tables.putContact_eq_self_iff {t : Tables} {owner : Text} {now : Instant} {v : Value}
    {address name : Bytes} : t.putContact (.text owner) (.make now v address name) = t ↔
      t.contacts.find? (contactKey owner address) = some (.make now v address name) := by
  rw [← Table.put_eq_self_iff]
  exact ⟨fun h => congrArg Tables.contacts h,
    fun h => congrArg (fun c => { t with contacts := c }) h⟩

/-! ## Tables that come of calls -/

/-- Tables that come of calls of the services, from empty tables on, whatever they are given. -/
inductive Tables.Handled : Tables → Prop
  | start : Handled .empty
  | registered {w : World} (r : Registry) (caller : Text) (nickname address : Bytes) : w.IsQuiet →
      Handled w.tables → Handled ((r.register (.str caller) nickname address).run w).2.tables
  | upserted {w : World} (b : ContactBook) (owner : Text) (address name : Bytes) : w.IsQuiet →
      Handled w.tables → Handled ((b.upsert (.str owner) address name).run w).2.tables
  | removed {w : World} (b : ContactBook) (owner : Text) (address : Bytes) : w.IsQuiet →
      Handled w.tables → Handled ((b.remove (.str owner) address).run w).2.tables

/-- A caller or a nickname is taken, or both are free. -/
theorem Tables.taken_or_free (t : Tables) (caller : Text) (nickname : Bytes) :
    (t.registered caller = true ∨ t.bound nickname = true) ∨
      t.registered caller = false ∧ t.bound nickname = false := by
  cases t.registered caller <;> cases t.bound nickname <;> simp

/-- Whatever the services are given, what they write can be looked up. -/
theorem Tables.Handled.legible {t : Tables} (h : t.Handled) : t.Legible := by
  induction h with
  | start => exact (Vacant.paired ⟨rfl, rfl⟩).legible
  | @registered w r caller nickname address hw _ ih =>
    obtain htaken | ⟨hfree, hunbound⟩ := w.tables.taken_or_free caller nickname
    · obtain ⟨e, he⟩ := r.register_taken hw ih caller nickname address htaken
      exact he.tables ▸ ih
    · rw [(r.register_free hw ih caller nickname address hfree hunbound).2]
      exact ih.enter hw.dated _ _ _
  | @upserted w b owner address name hw _ ih =>
    rw [(b.upsert_run hw owner address name).2]
    exact ih.of_same rfl rfl
  | @removed w b owner address hw _ ih =>
    obtain ⟨_, -, ht⟩ := Scene.Ends.run hw (b.remove_ends (s := ⟨w, []⟩) owner address)
    rw [ht]
    exact ih.of_same rfl rfl

/-! ## Errors and results -/

/-- Nothing is written behind an error, and what is returned is what is looked up next. -/
structure Act.Clean {α : Type} (write look : Act α) (w : World) : Prop where
  spares : ∀ e, (write.run w).1 = .error e → (write.run w).2.tables = w.tables
  keeps : ∀ record, (write.run w).1 = .ok record → (look.run (write.run w).2).1 = .ok record

section
variable {α : Type} {write look : Act α} {w : World}

theorem Act.clean_of_error {e : Failure} (h : (write.run w).1 = .error e) :
    write.Clean look w ↔ (write.run w).2.tables = w.tables := by
  refine ⟨fun hclean => hclean.spares e h, fun ht => ⟨fun _ _ => ht, fun record hrecord => ?_⟩⟩
  rw [h] at hrecord
  cases hrecord

theorem Act.clean_of_ok {record : α} (h : (write.run w).1 = .ok record) :
    write.Clean look w ↔ (look.run (write.run w).2).1 = .ok record := by
  refine ⟨fun hclean => hclean.keeps record h, fun hlook => ⟨fun e he => ?_, fun _ h' => ?_⟩⟩
  · rw [h] at he
    cases he
  · exact hlook.trans (h.symm.trans h')

end

namespace Tables.Handled
variable {w : World} (hw : w.IsQuiet)
include hw

theorem register_clean_iff (h : w.tables.Handled) (r : Registry) (caller : Text)
    (nickname address : Bytes) :
    (r.register (.str caller) nickname address).Clean (r.getRecord (.str caller)) w ↔
      w.tables.registered caller = true ∨ w.tables.bound nickname = true ∨
        nickname.length ≤ Field.nickname.width ∧ address.length ≤ Field.address.width := by
  obtain htaken | ⟨hfree, hunbound⟩ := w.tables.taken_or_free caller nickname
  · obtain ⟨e, he⟩ := r.register_taken hw h.legible caller nickname address htaken
    rw [Act.clean_of_error he.ends, ← or_assoc]
    exact iff_of_true he.tables (Or.inl htaken)
  · obtain ⟨hx, ht⟩ := r.register_free hw h.legible caller nickname address hfree hunbound
    have hquiet := hw.run (r.register (.str caller) nickname address)
    have hput : (w.tables.enter w.clock caller nickname address).identities.find? (.text caller) =
        some (.make w.clock (.str caller) nickname address) := Table.find?_put_self _ _ _
    rw [hfree, hunbound, ← IdentityItem.toRecord_make w.clock (.str caller)]
    simp only [Bool.false_eq_true, false_or]
    cases hrecord : (IdentityItem.make w.clock (.str caller) nickname address).toRecord with
    | error e =>
      rw [Act.clean_of_error (hx.trans hrecord), ht]
      refine iff_of_false (fun hsame => ?_) (by rintro ⟨_, ⟨⟩⟩)
      -- the caller has been registered all the same
      rw [hsame] at hput
      rw [Tables.registered, hput] at hfree
      cases hfree
    | ok record =>
      rw [Act.clean_of_ok (hx.trans hrecord)]
      refine iff_of_true ?_ ⟨record, rfl⟩
      refine (r.getRecord_tells hquiet ?_ caller (ht ▸ hput) hrecord).ends
      exact ht ▸ h.legible.enter hw.dated _ _ _

theorem upsert_clean_iff (b : ContactBook) (owner : Text) (address name : Bytes) :
    (b.upsert (.str owner) address name).Clean (b.get (.str owner) address) w ↔
      (name.length ≤ Field.contactName.width ∧ (address.length = Field.contactAddress.width ∨
          address.length < Field.contactAddress.width ∧
            Bytes.fill Field.contactName.width name = Field.contactName.zeros)) ∨
        (Field.contactName.width < name.length ∧
          w.tables.contacts.find? (contactKey owner address) =
            some (.make w.clock (.str owner) address name)) := by
  obtain ⟨hx, ht⟩ := b.upsert_run hw owner address name
  have hquiet := hw.run (b.upsert (.str owner) address name)
  rcases Nat.lt_or_ge Field.contactName.width name.length with hlong | hname
  · obtain ⟨e, he⟩ := ContactItem.toRecord_make_of_lt w.clock (.str owner) address hlong
    rw [Act.clean_of_error (hx.trans he), ht, putContact_eq_self_iff]
    simp only [hlong, not_le.2 hlong, true_and, false_and, false_or]
  · have hrecord := ContactItem.toRecord_make_of_le w.clock (.str owner) address hname
    have hput : (w.tables.putContact (.text owner) (.make w.clock (.str owner) address
        name)).contacts.find? (contactKey owner address) =
          some (.make w.clock (.str owner) address name) := Table.find?_put_self _ _ _
    have hstamp : Stamp.check (ContactItem.make w.clock (.str owner) address name).updatedAt =
        .ok () := Stamp.check_stampText hw.dated
    rw [← ht] at hput
    have hget := (b.get_tells hquiet owner address hput hstamp).ends
    rw [ContactItem.addressBytes_make, hrecord] at hget
    rw [Act.clean_of_ok (hx.trans hrecord), hget]
    simp only [hname, not_lt.2 hname, true_and, false_and, or_false]
    rcases lt_trichotomy address.length Field.contactAddress.width with hlt | heq | hgt
    · -- what is found is as long as the field, so it is another address
      have hfilled := Bytes.length_fill hlt.le
      have hother : Bytes.fill Field.contactAddress.width address ≠ address := fun hsame => by
        rw [hsame] at hfilled
        omega
      simp [Field.pad_of_le hlt.le, Except.bind, hother, hlt, hlt.ne, ContactRecord.empty, eq_comm]
    · simp [Field.pad_of_le heq.le, Except.bind, Bytes.fill_of_length_eq heq, heq]
    · obtain ⟨e, he⟩ := Field.pad_of_lt .null hgt
      simp [he, Except.bind, hgt.ne', hgt.le]

/-- **The services are clean for these lengths only.**  Where both keys are free, a registration has
to fit its fields.  A name has to fit its field, unless it is there already, and an address has to
fill its own, unless the name is nothing but zeros. -/
theorem clean_iff (h : w.tables.Handled) (r : Registry) (b : ContactBook) (caller : Text)
    (nickname address peer name : Bytes) :
    ((r.register (.str caller) nickname address).Clean (r.getRecord (.str caller)) w ↔
      w.tables.registered caller = true ∨ w.tables.bound nickname = true ∨
        nickname.length ≤ Field.nickname.width ∧ address.length ≤ Field.address.width) ∧
    ((b.upsert (.str caller) peer name).Clean (b.get (.str caller) peer) w ↔
      (name.length ≤ Field.contactName.width ∧ (peer.length = Field.contactAddress.width ∨
          peer.length < Field.contactAddress.width ∧
            Bytes.fill Field.contactName.width name = Field.contactName.zeros)) ∨
        (Field.contactName.width < name.length ∧
          w.tables.contacts.find? (contactKey caller peer) =
            some (.make w.clock (.str caller) peer name))) :=
  ⟨register_clean_iff hw h r caller nickname address, upsert_clean_iff hw b caller peer name⟩

end Tables.Handled

/-- Nothing but zeros is registered, and a contact at no address at all is not found again. -/
theorem blankWorld_clean : blankWorld.IsQuiet ∧ blankWorld.tables.Handled ∧
    ((Registry.mk blankWorld.container.site).register (.str "ann") Field.nickname.zeros
      Field.address.zeros).Clean
        ((Registry.mk blankWorld.container.site).getRecord (.str "ann")) blankWorld ∧
    ¬((ContactBook.mk blankWorld.container.site).upsert (.str "ann") [] [1]).Clean
      ((ContactBook.mk blankWorld.container.site).get (.str "ann") []) blankWorld := by
  have hw : blankWorld.IsQuiet := ⟨rfl, rfl, by decide⟩
  have hall (nickname address peer name : Bytes) := Tables.Handled.clean_iff hw .start
    ⟨blankWorld.container.site⟩ ⟨blankWorld.container.site⟩ "ann" nickname address peer name
  obtain ⟨hregister, hupsert⟩ := hall Field.nickname.zeros Field.address.zeros [] [1]
  refine ⟨hw, .start, hregister.2 (Or.inr (Or.inr ⟨by decide, by decide⟩)), fun hclean => ?_⟩
  rcases hupsert.1 hclean with ⟨-, hlength | ⟨-, hzeros⟩⟩ | ⟨hlong, -⟩
  · exact absurd hlength (by decide)
  · exact absurd (congrArg List.head? hzeros) (by decide)
  · exact absurd hlong (by decide)

/-- An address of one byte too much is registered, although that is told as an error. -/
theorem overlong_not_clean : blankWorld.IsQuiet ∧ blankWorld.tables.Handled ∧
    ¬((Registry.mk blankWorld.container.site).register (.str "ann") (List.replicate 21 97)
      (List.replicate 33 7)).Clean
        ((Registry.mk blankWorld.container.site).getRecord (.str "ann")) blankWorld := by
  refine ⟨⟨rfl, rfl, by decide⟩, .start, fun hclean => ?_⟩
  have hsame := hclean.spares _ rfl
  exact absurd (congrArg (Tables.registered · "ann") hsame) (by decide)

end Rendezvous
