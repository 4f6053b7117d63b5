/-
  Registrations in the tables.

  A registration is a record and a binding that belong together.  Tables are
  `Tables.Paired` if they hold whole registrations and nothing else; a later state of
  the tables has `Kept` an earlier one if every item is still there, unchanged.

  * `Paired.enroll` and `kept_enroll`: a registration is put whole, or not at all;
  * `Tables.verdict`: how a registration in one step ends;
  * `Paired.records_iff_binds`: records and bindings are inverse to each other.
-/
import Rendezvous.Proofs.Program
import Rendezvous.Service.Registry

namespace Rendezvous

/-- Whether a call asks for a record or a binding. -/
def StoreCall.isRead : StoreCall → Bool
  | .getIdentity _ | .getBinding _ => true
  | _ => false

/-- What is asked to be registered, of the widths to which requests are brought. -/
structure Application where
  caller : Text
  nickname : Bytes
  address : Bytes
  nickname_length : nickname.length = Field.nickname.width
  address_length : address.length = Field.address.width

/-- A stored value of the full width of its field is read back as it is. -/
theorem Field.fromStorageHex_of_width {f : Field} {bytes : Bytes} (h : bytes.length = f.width) :
    fromStorageHex f.width (.str (storageHex bytes)) = .ok bytes := by
  rw [fromStorageHex_storageHex (by rw [h]), Bytes.fill_of_length_eq h]

namespace Application
variable (a : Application)

/-- What is looked up for the caller after the registration. -/
def record : AddressRecord := ⟨a.address, a.nickname⟩

/-- The key of the record. -/
def identityKey : Key := .text a.caller

/-- The key of the binding. -/
def nicknameKey : Text := Field.storageHex a.nickname

/-- The record of a registration at a time. -/
def item (now : Instant) : IdentityItem := .make now (.str a.caller) a.nickname a.address

/-- The binding of a registration at a time. -/
def binding (now : Instant) : BindingItem := .make now (.str a.caller) a.nickname

/-- The caller has a nickname. -/
def identityTaken : Failure := .service (.identityTaken (.str a.caller))

/-- The nickname belongs to somebody. -/
def nicknameTaken : Failure := .service (.nicknameTaken (.str (Field.decodeNickname a.nickname)))

/-- The calls to the store that a registration makes. -/
def Calls (now : Instant) : StoreCall → Prop
  | .getIdentity identity => identity = .str a.caller
  | .getBinding key => key = a.nicknameKey
  | .register record binding => record = a.item now ∧ binding = a.binding now
  | _ => False

theorem toRecord_item (now : Instant) : (a.item now).toRecord = .ok a.record := by
  simp only [IdentityItem.toRecord, item, IdentityItem.make, Value.ofText?]
  rw [Field.fromStorageHex_of_width a.address_length, Field.fromStorageHex_of_width a.nickname_length]
  rfl

end Application

namespace Tables

/-! ## States of the tables -/

/-- Whether an identity has a record. -/
def registered (t : Tables) (identity : Text) : Bool :=
  (t.identities.find? (.text identity)).isSome

/-- Whether a nickname has a binding. -/
def bound (t : Tables) (nickname : Bytes) : Bool :=
  (t.nicknames.find? (Field.storageHex nickname)).isSome

/-- The record of an identity has a nickname. -/
def Records (t : Tables) (identity : Text) (nickname : Bytes) : Prop :=
  ∃ item, t.identities.find? (.text identity) = some item ∧
    item.nickname = some (Field.storageHex nickname)

/-- The binding of a nickname has an identity. -/
def Binds (t : Tables) (nickname : Bytes) (identity : Text) : Prop :=
  ∃ item, t.nicknames.find? (Field.storageHex nickname) = some item ∧
    item.identity = .str identity

/-- Both halves of a registration are in the tables. -/
structure Holds (t : Tables) (a : Application) (now : Instant) : Prop where
  dated : now.IsDated
  record : t.identities.find? a.identityKey = some (a.item now)
  binding : t.nicknames.find? a.nicknameKey = some (a.binding now)

/-- Nothing is registered. -/
structure Vacant (t : Tables) : Prop where
  identities : t.identities = []
  nicknames : t.nicknames = []

/-- Every record and every binding is one half of a registration. -/
structure Paired (t : Tables) : Prop where
  ofRecord : ∀ key item, t.identities.find? key = some item →
    ∃ a now, key = a.identityKey ∧ t.Holds a now
  ofBinding : ∀ key item, t.nicknames.find? key = some item →
    ∃ a now, key = a.nicknameKey ∧ t.Holds a now

/-- What was in the tables is still there, unchanged. -/
structure Kept (t t' : Tables) : Prop where
  records : ∀ key item, t.identities.find? key = some item → t'.identities.find? key = some item
  bindings : ∀ key item, t.nicknames.find? key = some item → t'.nicknames.find? key = some item

/-- The tables with a registration put. -/
def enroll (t : Tables) (a : Application) (now : Instant) : Tables :=
  (t.putIdentity a.identityKey (a.item now)).putBinding (a.binding now)

/-- How a registration in one step ends. -/
def verdict (t : Tables) (a : Application) : Except Failure AddressRecord :=
  if t.registered a.caller = true then .error a.identityTaken
  else if t.bound a.nickname = true then .error a.nicknameTaken
  else .ok a.record

variable {t t' : Tables} {a b : Application} {now later : Instant}

/-! ## Later states -/

theorem Kept.refl (t : Tables) : t.Kept t := ⟨fun _ _ => id, fun _ _ => id⟩

theorem Kept.trans {t₁ t₂ t₃ : Tables} (h : t₁.Kept t₂) (h' : t₂.Kept t₃) : t₁.Kept t₃ :=
  ⟨fun key item hi => h'.records _ _ (h.records key item hi),
    fun key item hi => h'.bindings _ _ (h.bindings key item hi)⟩

theorem Kept.holds (h : t.Kept t') (ha : t.Holds a now) : t'.Holds a now :=
  ⟨ha.dated, h.records _ _ ha.record, h.bindings _ _ ha.binding⟩

theorem Kept.registered (h : t.Kept t') {identity : Text} (hi : t.registered identity = true) :
    t'.registered identity = true := by
  obtain ⟨item, hitem⟩ := Option.isSome_iff_exists.1 hi
  exact Option.isSome_iff_exists.2 ⟨item, h.records _ _ hitem⟩

theorem Kept.bound (h : t.Kept t') {nickname : Bytes} (hn : t.bound nickname = true) :
    t'.bound nickname = true := by
  obtain ⟨item, hitem⟩ := Option.isSome_iff_exists.1 hn
  exact Option.isSome_iff_exists.2 ⟨item, h.bindings _ _ hitem⟩

theorem Kept.unregistered (h : t.Kept t') {identity : Text}
    (hi : t'.registered identity = false) : t.registered identity = false := by
  by_contra hreg
  rw [h.registered (by simpa using hreg)] at hi
  cases hi

theorem Kept.unbound (h : t.Kept t') {nickname : Bytes} (hn : t'.bound nickname = false) :
    t.bound nickname = false := by
  by_contra hbound
  rw [h.bound (by simpa using hbound)] at hn
  cases hn

/-! ## Whole registrations -/

theorem Holds.registered (h : t.Holds a now) : t.registered a.caller = true :=
  Option.isSome_iff_exists.2 ⟨_, h.record⟩

theorem Holds.bound (h : t.Holds a now) : t.bound a.nickname = true :=
  Option.isSome_iff_exists.2 ⟨_, h.binding⟩

/-- One record is of one registration. -/
theorem Holds.eq_of_caller (h : t.Holds a now) (h' : t.Holds b later)
    (hc : a.caller = b.caller) : a.nickname = b.nickname ∧ a.address = b.address := by
  have hkey : a.identityKey = b.identityKey := by rw [Application.identityKey, hc]; rfl
  have hitem := h.record
  rw [hkey, h'.record] at hitem
  simp only [Option.some.injEq, Application.item, IdentityItem.make, IdentityItem.mk.injEq] at hitem
  obtain ⟨-, haddr, hnick, -⟩ := hitem
  exact ⟨(Hex.encode_injective hnick).symm, (Hex.encode_injective haddr).symm⟩

/-- One binding is of one registration. -/
theorem Holds.eq_of_nickname (h : t.Holds a now) (h' : t.Holds b later)
    (hn : a.nickname = b.nickname) : a.caller = b.caller := by
  have hkey : a.nicknameKey = b.nicknameKey := by rw [Application.nicknameKey, hn]; rfl
  have hitem := h.binding
  rw [hkey, h'.binding] at hitem
  simp only [Option.some.injEq, Application.binding, BindingItem.make, BindingItem.mk.injEq,
    Value.str.injEq] at hitem
  exact hitem.2.1.symm

theorem Vacant.paired (h : t.Vacant) : t.Paired where
  ofRecord _ _ hitem := by rw [h.identities] at hitem; cases hitem
  ofBinding _ _ hitem := by rw [h.nicknames] at hitem; cases hitem

/-- A record is that of a registration. -/
theorem Paired.of_record (h : t.Paired) {key : Key} {item : IdentityItem}
    (hitem : t.identities.find? key = some item) :
    ∃ a now, key = a.identityKey ∧ item = a.item now ∧ t.Holds a now := by
  obtain ⟨a, now, rfl, ha⟩ := h.ofRecord _ _ hitem
  rw [ha.record] at hitem
  exact ⟨a, now, rfl, (Option.some.inj hitem).symm, ha⟩

/-- A binding is that of a registration. -/
theorem Paired.of_binding (h : t.Paired) {key : Text} {item : BindingItem}
    (hitem : t.nicknames.find? key = some item) :
    ∃ a now, key = a.nicknameKey ∧ item = a.binding now ∧ t.Holds a now := by
  obtain ⟨a, now, rfl, ha⟩ := h.ofBinding _ _ hitem
  rw [ha.binding] at hitem
  exact ⟨a, now, rfl, (Option.some.inj hitem).symm, ha⟩

theorem Paired.records_iff (h : t.Paired) {identity : Text} {nickname : Bytes} :
    t.Records identity nickname ↔
      ∃ a now, a.caller = identity ∧ a.nickname = nickname ∧ t.Holds a now := by
  constructor
  · rintro ⟨item, hitem, hn⟩
    obtain ⟨a, now, hkey, rfl, ha⟩ := h.of_record hitem
    exact ⟨a, now, (Key.text.inj hkey).symm, Hex.encode_injective (Option.some.inj hn), ha⟩
  · rintro ⟨a, now, rfl, rfl, ha⟩
    exact ⟨_, ha.record, rfl⟩

theorem Paired.binds_iff (h : t.Paired) {identity : Text} {nickname : Bytes} :
    t.Binds nickname identity ↔
      ∃ a now, a.caller = identity ∧ a.nickname = nickname ∧ t.Holds a now := by
  constructor
  · rintro ⟨item, hitem, hi⟩
    obtain ⟨a, now, hkey, rfl, ha⟩ := h.of_binding hitem
    exact ⟨a, now, Value.str.inj hi, (Hex.encode_injective hkey).symm, ha⟩
  · rintro ⟨a, now, rfl, rfl, ha⟩
    exact ⟨_, ha.binding, rfl⟩

/-- Records and bindings are inverse to each other. -/
theorem Paired.records_iff_binds (h : t.Paired) {identity : Text} {nickname : Bytes} :
    t.Records identity nickname ↔ t.Binds nickname identity := by
  rw [h.records_iff, h.binds_iff]

/-! ## Registering -/

theorem admits_iff : t.admits a.identityKey a.nicknameKey = true ↔
    t.registered a.caller = false ∧ t.bound a.nickname = false := by
  simp only [admits, Bool.and_eq_true, Option.isNone_iff_eq_none, registered, bound,
    Option.isSome_eq_false_iff]
  exact Iff.rfl

theorem not_admits_of_registered (h : t.registered a.caller = true) :
    t.admits a.identityKey a.nicknameKey = false := by
  by_contra hadmits
  rw [(admits_iff.1 (by simpa using hadmits)).1] at h
  cases h

theorem not_admits_of_bound (h : t.bound a.nickname = true) :
    t.admits a.identityKey a.nicknameKey = false := by
  by_contra hadmits
  rw [(admits_iff.1 (by simpa using hadmits)).2] at h
  cases h

theorem call_read {call : StoreCall} (h : call.isRead = true) (t : Tables) :
    (t.call call).2 = t := by
  cases call with
  | getIdentity identity => simp only [Tables.call, keyed]; split <;> rfl
  | getBinding key => rfl
  | _ => cases h

theorem call_register (t : Tables) (a : Application) (now : Instant) :
    t.call (.register (a.item now) (a.binding now)) =
      if t.admits a.identityKey a.nicknameKey = true then (.ok (), t.enroll a now)
      else (.error cancelled, t) := rfl

theorem holds_enroll (hd : now.IsDated) : (t.enroll a now).Holds a now :=
  ⟨hd, Table.find?_put_self _ _ _, Table.find?_put_self _ _ _⟩

theorem kept_enroll (h : t.admits a.identityKey a.nicknameKey = true) :
    t.Kept (t.enroll a now) := by
  simp only [admits, Bool.and_eq_true, Option.isNone_iff_eq_none] at h
  obtain ⟨hi, hn⟩ := h
  refine ⟨fun key item hitem => ?_, fun key item hitem => ?_⟩
  · have hne : key ≠ a.identityKey := by rintro rfl; rw [hi] at hitem; cases hitem
    rw [← hitem]; exact Table.find?_put_of_ne hne _ _
  · have hne : key ≠ a.nicknameKey := by rintro rfl; rw [hn] at hitem; cases hitem
    rw [← hitem]; exact Table.find?_put_of_ne hne _ _

/-- Whatever is in the tables after a registration was put is it, or was there before. -/
theorem Paired.enroll (h : t.Paired) (hd : now.IsDated)
    (hfree : t.admits a.identityKey a.nicknameKey = true) : (t.enroll a now).Paired := by
  have hkept : t.Kept (t.enroll a now) := kept_enroll hfree
  refine ⟨fun key item hitem => ?_, fun key item hitem => ?_⟩
  · by_cases hkey : key = a.identityKey
    · exact ⟨a, now, hkey, holds_enroll hd⟩
    · have hold : t.identities.find? key = some item := by
        rw [← hitem]; exact (Table.find?_put_of_ne hkey _ _).symm
      obtain ⟨b, later, hb, hholds⟩ := h.ofRecord _ _ hold
      exact ⟨b, later, hb, hkept.holds hholds⟩
  · by_cases hkey : key = a.nicknameKey
    · exact ⟨a, now, hkey, holds_enroll hd⟩
    · have hold : t.nicknames.find? key = some item := by
        rw [← hitem]; exact (Table.find?_put_of_ne hkey _ _).symm
      obtain ⟨b, later, hb, hholds⟩ := h.ofBinding _ _ hold
      exact ⟨b, later, hb, hkept.holds hholds⟩

theorem verdict_registered (h : t.registered a.caller = true) :
    t.verdict a = .error a.identityTaken := by
  rw [verdict, if_pos h]

theorem verdict_bound (h : t.registered a.caller = false) (hn : t.bound a.nickname = true) :
    t.verdict a = .error a.nicknameTaken := by
  rw [verdict, if_neg (by rw [h]; exact Bool.false_ne_true), if_pos hn]

theorem verdict_admits (h : t.admits a.identityKey a.nicknameKey = true) :
    t.verdict a = .ok a.record := by
  obtain ⟨hi, hn⟩ := admits_iff.1 h
  rw [verdict, if_neg (by rw [hi]; exact Bool.false_ne_true),
    if_neg (by rw [hn]; exact Bool.false_ne_true)]

theorem verdict_eq_nicknameTaken (h : t.verdict a = .error a.nicknameTaken) :
    t.registered a.caller = false ∧ t.bound a.nickname = true := by
  unfold verdict at h
  split at h
  · cases h
  · rename_i hi
    split at h
    · rename_i hn
      exact ⟨by simpa using hi, hn⟩
    · cases h

end Tables

end Rendezvous
